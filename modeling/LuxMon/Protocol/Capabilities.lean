import Mathlib.Tactic

/-!
# Model capabilities

All models share one register map; a register is meaningful on a model when
the model has every capability the register requires.  An unknown model gets the
most capable family, so nothing that might apply is hidden.
-/

namespace LuxMon

inductive Capability
  | pv1 | pv2 | pv3 | pv4 | pv5 | pv6
  | singlePhase | splitPhase | threePhase
  | afci | generator | smartLoad | acCouple | wattnode | gridPeakShaving
  | voltWatt | qvCurve | qpCurve | sevenDaySchedule | batteryBms
  deriving DecidableEq, Repr

/-- SNA family: 2 MPPT, single phase. -/
def snaCaps : List Capability := [.pv1, .pv2, .singlePhase, .batteryBms]

/-- 18KPV family: 3+ MPPT, split phase, AFCI. -/
def caps18Kpv : List Capability :=
  [.pv1, .pv2, .pv3, .pv4, .pv5, .pv6, .splitPhase, .afci, .generator, .smartLoad, .acCouple,
    .wattnode, .gridPeakShaving, .voltWatt, .qvCurve, .qpCurve, .sevenDaySchedule, .batteryBms]

/-- 12kPV: 3 MPPT, split phase, no AFCI. -/
def caps12Kpv : List Capability :=
  [.pv1, .pv2, .pv3, .splitPhase, .generator, .smartLoad, .acCouple, .gridPeakShaving,
    .voltWatt, .qvCurve, .qpCurve, .sevenDaySchedule, .batteryBms]

def modelCapabilities : List (String × List Capability) :=
  [("eg4_6000xp", snaCaps), ("luxpower_sna", snaCaps), ("eg4_12000xp", snaCaps),
    ("eg4_6500ex", snaCaps), ("eg4_3000ehv", snaCaps), ("lxp_6k", snaCaps),
    ("bigbattery_sna_6k", snaCaps),
    ("eg4_18kpv", caps18Kpv), ("lxp_18k", caps18Kpv), ("fortress_envy_12k", caps18Kpv),
    ("eg4_12kpv", caps12Kpv), ("lxp_12k", caps12Kpv)]

def defaultCapabilities : List Capability := caps18Kpv

def DEFAULT_MODEL : String := "eg4_6000xp"

def capabilitiesFor (model : String) : List Capability :=
  (modelCapabilities.lookup model).getD defaultCapabilities

/-- A register without required capabilities applies to every model. -/
def registerApplies (capabilities required : List Capability) : Bool :=
  required.isEmpty || required.all capabilities.contains

end LuxMon
