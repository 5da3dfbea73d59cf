import LuxMon.Protocol.Capabilities

/-!
# Holding registers

`HOLDING_REGISTERS` row by row, with the generated 7-day schedule block, the
lookup by name, and the part of the table that a model supports.  Every row of
the source has a `scale`, a `min` and a `max`, so they are plain fields here.

    every row is a non-empty range of raw values, in steps of 1, 1/10 or 1/100    (holdingRegisters_wf)
-/

namespace LuxMon

structure HoldingRegister where
  name : String
  unit : String
  scale : ℚ
  min : ℤ
  max : ℤ
  capabilities : List Capability
  deriving DecidableEq

/-- The rows written out in the source. -/
def baseRegisters : List (Nat × HoldingRegister) := [
  -- Power command (percent) registers 60-67
  (60, ⟨"active_power_percent", "%", 1, 0, 100, []⟩),
  (61, ⟨"reactive_power_percent", "%", 1, 0, 100, []⟩),
  (62, ⟨"power_factor_command", "", 1, (-100), 100, []⟩),
  (63, ⟨"soft_start_slope", "%/s", 1, 0, 100, []⟩),
  (64, ⟨"charge_power_percent", "%", 1, 0, 100, []⟩),
  (65, ⟨"discharge_power_percent", "%", 1, 0, 100, []⟩),
  (66, ⟨"ac_charge_power_percent", "%", 1, 0, 100, []⟩),
  (67, ⟨"ac_charge_soc_limit", "%", 1, 0, 100, []⟩),
  -- AC charge time-of-day slots 68-73 (MM*256+HH: hour in LOW byte, minute in HIGH byte)
  (68, ⟨"ac_charge_period_1_start", "time", 1, 0, 15127, []⟩),
  (69, ⟨"ac_charge_period_1_end", "time", 1, 0, 15127, []⟩),
  (70, ⟨"ac_charge_period_2_start", "time", 1, 0, 15127, []⟩),
  (71, ⟨"ac_charge_period_2_end", "time", 1, 0, 15127, []⟩),
  (72, ⟨"ac_charge_period_3_start", "time", 1, 0, 15127, []⟩),
  (73, ⟨"ac_charge_period_3_end", "time", 1, 0, 15127, []⟩),
  -- Forced charge (charge priority) 74-81
  (74, ⟨"forced_charge_power", "A", 1, 0, 140, []⟩),
  (75, ⟨"forced_charge_soc_limit", "%", 1, 0, 100, []⟩),
  (76, ⟨"forced_charge_period_1_start", "time", 1, 0, 15127, []⟩),
  (77, ⟨"forced_charge_period_1_end", "time", 1, 0, 15127, []⟩),
  (78, ⟨"forced_charge_period_2_start", "time", 1, 0, 15127, []⟩),
  (79, ⟨"forced_charge_period_2_end", "time", 1, 0, 15127, []⟩),
  (80, ⟨"forced_charge_period_3_start", "time", 1, 0, 15127, []⟩),
  (81, ⟨"forced_charge_period_3_end", "time", 1, 0, 15127, []⟩),
  -- Forced discharge 82-89
  (82, ⟨"forced_discharge_power", "A", 1, 0, 140, []⟩),
  (83, ⟨"forced_discharge_soc_limit", "%", 1, 0, 100, []⟩),
  (84, ⟨"forced_discharge_period_1_start", "time", 1, 0, 15127, []⟩),
  (85, ⟨"forced_discharge_period_1_end", "time", 1, 0, 15127, []⟩),
  (86, ⟨"forced_discharge_period_2_start", "time", 1, 0, 15127, []⟩),
  (87, ⟨"forced_discharge_period_2_end", "time", 1, 0, 15127, []⟩),
  (88, ⟨"forced_discharge_period_3_start", "time", 1, 0, 15127, []⟩),
  (89, ⟨"forced_discharge_period_3_end", "time", 1, 0, 15127, []⟩),
  -- EPS output 90-91
  (90, ⟨"eps_voltage_set", "V", 0.1, 0, 3000, []⟩),
  (91, ⟨"eps_frequency_set", "Hz", 0.01, 0, 6000, []⟩),
  -- Lead-acid battery 99-109
  (99, ⟨"lead_acid_charge_voltage", "V", 0.1, 50, 58, []⟩),
  (100, ⟨"lead_acid_discharge_cut_voltage", "V", 0.1, 40, 56, []⟩),
  (101, ⟨"lead_acid_charge_rate", "A", 1, 0, 4480, []⟩),
  (102, ⟨"lead_acid_discharge_rate", "A", 1, 0, 4480, []⟩),
  (103, ⟨"feed_in_grid_power_percent", "%", 1, 0, 255, []⟩),
  (105, ⟨"discharge_cutoff_soc_eod", "%", 1, 10, 90, []⟩),
  -- SOC low limit EPS discharge 125
  (125, ⟨"soc_low_limit_eps_discharge", "%", 1, 0, 90, []⟩),
  -- Lead-acid voltage / battery config 144-151
  (144, ⟨"floating_voltage", "V", 0.1, 50, 58, []⟩),
  (146, ⟨"ac_input_range", "", 1, 0, 1, []⟩),
  (147, ⟨"battery_capacity", "Ah", 1, 1, 65535, []⟩),
  (148, ⟨"nominal_battery_voltage", "V", 0.1, 0, 600, []⟩),
  (149, ⟨"equalization_voltage", "V", 0.1, 50, 59, []⟩),
  (150, ⟨"equalization_period", "days", 1, 0, 365, []⟩),
  (151, ⟨"equalization_time", "h", 1, 0, 24, []⟩),
  -- AC First mode time slots 152-157
  (152, ⟨"ac_first_period_1_start", "time", 1, 0, 15127, []⟩),
  (153, ⟨"ac_first_period_1_end", "time", 1, 0, 15127, []⟩),
  (154, ⟨"ac_first_period_2_start", "time", 1, 0, 15127, []⟩),
  (155, ⟨"ac_first_period_2_end", "time", 1, 0, 15127, []⟩),
  (156, ⟨"ac_first_period_3_start", "time", 1, 0, 15127, []⟩),
  (157, ⟨"ac_first_period_3_end", "time", 1, 0, 15127, []⟩),
  -- AC charge battery voltage/SOC thresholds 158-161
  (158, ⟨"ac_charge_start_battery_voltage", "V", 0.1, 0, 600, []⟩),
  (159, ⟨"ac_charge_end_battery_voltage", "V", 0.1, 0, 600, []⟩),
  (160, ⟨"ac_charge_start_battery_soc", "%", 1, 0, 100, []⟩),
  (161, ⟨"ac_charge_end_battery_soc", "%", 1, 0, 100, []⟩),
  -- Battery warning / protection 162-167
  (162, ⟨"battery_warning_voltage", "V", 0.1, 0, 600, []⟩),
  (163, ⟨"battery_warning_recovery_voltage", "V", 0.1, 0, 600, []⟩),
  (164, ⟨"battery_warning_soc", "%", 1, 0, 100, []⟩),
  (165, ⟨"battery_warning_recovery_soc", "%", 1, 0, 100, []⟩),
  (166, ⟨"battery_low_to_utility_voltage", "V", 0.1, 0, 600, []⟩),
  (167, ⟨"battery_low_to_utility_soc", "%", 1, 0, 100, []⟩),
  -- AC charge battery current (amps) 168
  (168, ⟨"ac_charge_battery_current", "A", 1, 0, 125, []⟩),
  -- On-grid EOD voltage 169
  (169, ⟨"on_grid_eod_voltage", "V", 0.1, 40, 58, []⟩),
  -- Generator 177
  (177, ⟨"max_generator_input_power", "W", 1, 0, 65534, [.generator]⟩),
  -- Function enable 5 (233) + quick charge duration (234)
  (233, ⟨"function_enable_5", "", 1, 0, 65535, []⟩),
  (234, ⟨"quick_charge_duration", "min", 1, 0, 1440, []⟩),
  -- Firmware & device info (7-20)
  (15, ⟨"modbus_comm_address", "", 1, 0, 150, []⟩),
  (20, ⟨"pv_input_model", "", 1, 0, 7, []⟩),
  -- Grid & power settings (22-28)
  (22, ⟨"pv_start_voltage", "V", 0.1, 90, 500, []⟩),
  (23, ⟨"on_grid_wait_time", "s", 1, 30, 600, []⟩),
  (24, ⟨"reconnect_wait_time", "s", 1, 0, 900, []⟩),
  (25, ⟨"grid_volt_connect_low", "V", 0.1, 0, 600, []⟩),
  (26, ⟨"grid_volt_connect_high", "V", 0.1, 0, 600, []⟩),
  (27, ⟨"grid_freq_connect_low", "Hz", 0.01, 0, 7000, []⟩),
  (28, ⟨"grid_freq_connect_high", "Hz", 0.01, 0, 7000, []⟩),
  -- Grid voltage protection limits (29-41) — hardware validation
  (29, ⟨"grid_volt_limit_1_low", "V", 0.1, 0, 600, []⟩),
  (30, ⟨"grid_volt_limit_1_high", "V", 0.1, 0, 600, []⟩),
  (31, ⟨"grid_volt_limit_1_low_time", "", 1, 0, 65535, []⟩),
  (32, ⟨"grid_volt_limit_1_high_time", "", 1, 0, 65535, []⟩),
  (33, ⟨"grid_volt_limit_2_low", "V", 0.1, 0, 600, []⟩),
  (34, ⟨"grid_volt_limit_2_high", "V", 0.1, 0, 600, []⟩),
  (35, ⟨"grid_volt_limit_2_low_time", "", 1, 0, 65535, []⟩),
  (36, ⟨"grid_volt_limit_2_high_time", "", 1, 0, 65535, []⟩),
  (37, ⟨"grid_volt_limit_3_low", "V", 0.1, 0, 600, []⟩),
  (38, ⟨"grid_volt_limit_3_high", "V", 0.1, 0, 600, []⟩),
  (39, ⟨"grid_volt_limit_3_low_time", "", 1, 0, 65535, []⟩),
  (40, ⟨"grid_volt_limit_3_high_time", "", 1, 0, 65535, []⟩),
  (41, ⟨"grid_volt_moving_avg_high", "V", 0.1, 0, 600, []⟩),
  -- Grid frequency protection limits (42-53) — hardware validation
  (42, ⟨"grid_freq_limit_1_low", "Hz", 0.01, 0, 7000, []⟩),
  (43, ⟨"grid_freq_limit_1_high", "Hz", 0.01, 0, 7000, []⟩),
  (44, ⟨"grid_freq_limit_1_low_time", "", 1, 0, 65535, []⟩),
  (45, ⟨"grid_freq_limit_1_high_time", "", 1, 0, 65535, []⟩),
  (46, ⟨"grid_freq_limit_2_low", "Hz", 0.01, 0, 7000, []⟩),
  (47, ⟨"grid_freq_limit_2_high", "Hz", 0.01, 0, 7000, []⟩),
  (48, ⟨"grid_freq_limit_2_low_time", "", 1, 0, 65535, []⟩),
  (49, ⟨"grid_freq_limit_2_high_time", "", 1, 0, 65535, []⟩),
  (50, ⟨"grid_freq_limit_3_low", "Hz", 0.01, 0, 7000, []⟩),
  (51, ⟨"grid_freq_limit_3_high", "Hz", 0.01, 0, 7000, []⟩),
  (52, ⟨"grid_freq_limit_3_low_time", "", 1, 0, 65535, []⟩),
  (53, ⟨"grid_freq_limit_3_high_time", "", 1, 0, 65535, []⟩),
  -- Q(V) curve (54-58) — QV_CURVE capability
  (54, ⟨"qv_max_q_percent", "%", 1, 0, 100, [.qvCurve]⟩),
  (55, ⟨"qv_curve_v2l", "V", 0.1, 0, 600, [.qvCurve]⟩),
  (56, ⟨"qv_curve_v1l", "V", 0.1, 0, 600, [.qvCurve]⟩),
  (57, ⟨"qv_curve_v1h", "V", 0.1, 0, 600, [.qvCurve]⟩),
  (58, ⟨"qv_curve_v2h", "V", 0.1, 0, 600, [.qvCurve]⟩),
  -- Reactive power command type (59)
  (59, ⟨"reactive_power_command_type", "", 1, 0, 7, []⟩),
  -- EPS & Q(V)/P(V) (92-97) — QV_CURVE / QP_CURVE
  (92, ⟨"cosphi_p_lock_in_voltage", "V", 0.1, 230, 300, [.qpCurve]⟩),
  (93, ⟨"cosphi_p_lock_out_voltage", "V", 0.1, 150, 300, [.qpCurve]⟩),
  (94, ⟨"qv_lock_in_power", "%", 1, 0, 100, [.qvCurve]⟩),
  (95, ⟨"qv_lock_out_power", "%", 1, 0, 100, [.qvCurve]⟩),
  (96, ⟨"qv_delay", "", 1, 0, 2000, [.qvCurve]⟩),
  (97, ⟨"overfrequency_derate_delay", "", 1, 0, 1000, []⟩),
  -- Lead-acid temperature limits (106-109)
  (106, ⟨"lead_acid_discharge_temp_low", "°C", 0.1, (-200), 600, []⟩),
  (107, ⟨"lead_acid_discharge_temp_high", "°C", 0.1, 0, 600, []⟩),
  (108, ⟨"lead_acid_charge_temp_low", "°C", 0.1, (-200), 600, []⟩),
  (109, ⟨"lead_acid_charge_temp_high", "°C", 0.1, 0, 600, []⟩),
  -- System config (112-120)
  (112, ⟨"system_type", "", 1, 0, 4, []⟩),
  (115, ⟨"overfrequency_derate_start", "Hz", 0.01, 5000, 5200, []⟩),
  (116, ⟨"start_discharge_threshold", "W", 1, 0, 65535, []⟩),
  (117, ⟨"start_charge_threshold", "W", 1, (-65535), 65535, []⟩),
  (118, ⟨"battery_voltage_derate_start", "V", 0.1, 0, 600, []⟩),
  (119, ⟨"external_ct_power_offset", "W", 1, (-65535), 65535, []⟩),
  -- Derate / scheduling (124-143)
  (124, ⟨"overfrequency_derate_end", "Hz", 0.01, 5000, 5200, []⟩),
  (132, ⟨"battery_cell_voltage_limit", "V", 0.1, 0, 600, []⟩),
  (133, ⟨"battery_cell_count", "", 1, 0, 65535, []⟩),
  (134, ⟨"underfrequency_derate_start", "Hz", 0.01, 4500, 5000, []⟩),
  (135, ⟨"underfrequency_derate_end", "Hz", 0.01, 4500, 5000, []⟩),
  (136, ⟨"underfrequency_derate_ratio", "%Pm/Hz", 1, 1, 100, []⟩),
  (137, ⟨"specific_load_compensation", "W", 1, 0, 65535, []⟩),
  (138, ⟨"charge_power_percent_precise", "%", 0.1, 0, 100, []⟩),
  (139, ⟨"discharge_power_percent_precise", "%", 0.1, 0, 100, []⟩),
  (140, ⟨"ac_charge_percent_precise", "%", 0.1, 0, 100, []⟩),
  (141, ⟨"charge_priority_percent_precise", "%", 0.1, 0, 100, []⟩),
  (142, ⟨"forced_discharge_percent_precise", "%", 0.1, 0, 100, []⟩),
  (143, ⟨"active_power_percent_precise", "%", 0.1, 0, 100, []⟩),
  -- Battery config (145)
  (145, ⟨"output_priority", "", 1, 0, 2, []⟩),
  -- SOC curve (171-175)
  (171, ⟨"soc_curve_battery_volt_1", "V", 0.1, 40, 60, []⟩),
  (172, ⟨"soc_curve_battery_volt_2", "V", 0.1, 40, 60, []⟩),
  (173, ⟨"soc_curve_soc_1", "%", 1, 0, 100, []⟩),
  (174, ⟨"soc_curve_soc_2", "%", 1, 0, 100, []⟩),
  (175, ⟨"battery_inner_resistance", "µΩ", 1, 0, 100, []⟩),
  -- Generator (176) — GENERATOR capability
  (176, ⟨"max_grid_import_power", "kW", 0.1, 0, 6553, []⟩),
  -- AFCI / VoltWatt / QV (180-193) — AFCI / VOLT_WATT / QV_CURVE
  (180, ⟨"afci_arc_threshold", "A", 1, 0, 65535, [.afci]⟩),
  (181, ⟨"voltwatt_v1", "V", 0.1, 0, 600, [.voltWatt]⟩),
  (182, ⟨"voltwatt_v2", "V", 0.1, 0, 600, [.voltWatt]⟩),
  (183, ⟨"voltwatt_delay", "ms", 1, 500, 60000, [.voltWatt]⟩),
  (184, ⟨"voltwatt_p2", "%", 1, 0, 100, [.voltWatt]⟩),
  (185, ⟨"vref_qv", "V", 0.1, 0, 600, [.qvCurve]⟩),
  (186, ⟨"vref_filter_time", "s", 1, 0, 65535, [.qvCurve]⟩),
  (187, ⟨"q3_qv", "%", 1, 0, 100, [.qvCurve]⟩),
  (188, ⟨"q4_qv", "%", 1, 0, 100, [.qvCurve]⟩),
  (189, ⟨"qp_curve_p1", "%", 1, 0, 100, [.qpCurve]⟩),
  (190, ⟨"qp_curve_p2", "%", 1, 0, 100, [.qpCurve]⟩),
  (191, ⟨"qp_curve_p3", "%", 1, 0, 100, [.qpCurve]⟩),
  (192, ⟨"qp_curve_p4", "%", 1, 0, 100, [.qpCurve]⟩),
  (193, ⟨"underfrequency_ramp_rate", "%Pm/Hz", 1, 1, 100, []⟩),
  -- Generator charge (194-198) — GENERATOR capability
  (194, ⟨"generator_charge_start_voltage", "V", 0.1, 384, 520, [.generator]⟩),
  (195, ⟨"generator_charge_end_voltage", "V", 0.1, 480, 590, [.generator]⟩),
  (196, ⟨"generator_charge_start_soc", "%", 1, 0, 90, [.generator]⟩),
  (197, ⟨"generator_charge_end_soc", "%", 1, 20, 100, [.generator]⟩),
  (198, ⟨"max_generator_charge_current", "A", 1, 0, 60, [.generator]⟩),
  -- Advanced (199-261)
  (199, ⟨"overtemperature_derate_point", "°C", 0.1, 60, 90, []⟩),
  (201, ⟨"charge_priority_end_voltage", "V", 0.1, 480, 595, []⟩),
  (202, ⟨"forced_discharge_end_voltage", "V", 0.1, 400, 560, []⟩),
  (204, ⟨"lead_acid_capacity", "Ah", 1, 50, 5000, []⟩),
  (205, ⟨"grid_type", "", 1, 0, 1, []⟩),
  (206, ⟨"grid_peak_shaving_power", "W", 1, 0, 65535, [.gridPeakShaving]⟩),
  (207, ⟨"grid_peak_shaving_soc", "%", 1, 0, 100, [.gridPeakShaving]⟩),
  (208, ⟨"grid_peak_shaving_voltage", "V", 0.1, 480, 590, [.gridPeakShaving]⟩),
  (209, ⟨"peak_shaving_period_1_start", "time", 1, 0, 15127, [.gridPeakShaving]⟩),
  (210, ⟨"peak_shaving_period_1_end", "time", 1, 0, 15127, [.gridPeakShaving]⟩),
  (211, ⟨"peak_shaving_period_2_start", "time", 1, 0, 15127, [.gridPeakShaving]⟩),
  (212, ⟨"peak_shaving_period_2_end", "time", 1, 0, 15127, [.gridPeakShaving]⟩),
  (213, ⟨"smart_load_on_voltage", "V", 0.1, 480, 590, [.smartLoad]⟩),
  (214, ⟨"smart_load_off_voltage", "V", 0.1, 400, 520, [.smartLoad]⟩),
  (215, ⟨"smart_load_on_soc", "%", 1, 0, 100, [.smartLoad]⟩),
  (216, ⟨"smart_load_off_soc", "%", 1, 0, 100, [.smartLoad]⟩),
  (217, ⟨"start_pv_power", "kW", 0.1, 0, 12, []⟩),
  (218, ⟨"grid_peak_shaving_soc_1", "%", 1, 0, 100, [.gridPeakShaving]⟩),
  (219, ⟨"grid_peak_shaving_volt_1", "V", 0.1, 480, 590, [.gridPeakShaving]⟩),
  (220, ⟨"ac_couple_start_soc", "%", 1, 0, 100, [.acCouple]⟩),
  (221, ⟨"ac_couple_end_soc", "%", 1, 0, 255, [.acCouple]⟩),
  (222, ⟨"ac_couple_start_volt", "V", 0.1, 400, 595, [.acCouple]⟩),
  (223, ⟨"ac_couple_end_volt", "V", 0.1, 420, 800, [.acCouple]⟩),
  (227, ⟨"battery_stop_charge_soc", "%", 1, 10, 101, []⟩),
  (228, ⟨"battery_stop_charge_voltage", "V", 0.1, 400, 595, []⟩),
  (232, ⟨"grid_peak_shaving_power_1", "W", 1, 0, 65535, [.gridPeakShaving]⟩),
  (235, ⟨"no_full_charge_day_config", "", 1, 0, 65535, []⟩),
  (236, ⟨"float_charge_threshold", "C", 0.01, 1, 255, []⟩),
  (237, ⟨"generator_cooldown_time", "min", 0.1, 1, 255, [.generator]⟩),
  (242, ⟨"npe_threshold", "V", 0.1, 0, 65535, []⟩),
  (248, ⟨"wattnode_ct_amps_phase_1", "A", 1, 0, 65535, [.wattnode]⟩),
  (249, ⟨"wattnode_ct_amps_phase_2", "A", 1, 0, 65535, [.wattnode]⟩),
  (250, ⟨"wattnode_ct_amps_phase_3", "A", 1, 0, 65535, [.wattnode]⟩),
  (252, ⟨"nec_120_bus_bar_limit", "W", 1, 0, 65535, []⟩),
  (253, ⟨"soc_delta_hysteresis", "%", 1, 0, 100, []⟩),
  (254, ⟨"voltage_delta_hysteresis", "V", 0.1, 0, 100, []⟩),
  (260, ⟨"bus_voltage_high_limit", "V", 0.1, 0, 800, []⟩),
  (261, ⟨"discharge_recovery", "%", 1, 0, 100, []⟩),
  -- Function-enable bitfields (21, 110, 120, 179)
  (21, ⟨"function_enable_1", "", 1, 0, 65535, []⟩),
  (110, ⟨"function_enable_3", "", 1, 0, 65535, []⟩),
  (120, ⟨"system_enable_2", "", 1, 0, 65535, []⟩),
  (179, ⟨"function_enable_4", "", 1, 0, 65535, []⟩),
  -- Optimal charge/discharge time marks (126-131)
  (126, ⟨"optimal_chg_dischg_0_3", "", 1, 0, 65535, []⟩),
  (127, ⟨"optimal_chg_dischg_4_7", "", 1, 0, 65535, []⟩),
  (128, ⟨"optimal_chg_dischg_8_11", "", 1, 0, 65535, []⟩),
  (129, ⟨"optimal_chg_dischg_12_15", "", 1, 0, 65535, []⟩),
  (130, ⟨"optimal_chg_dischg_16_19", "", 1, 0, 65535, []⟩),
  (131, ⟨"optimal_chg_dischg_20_23", "", 1, 0, 65535, []⟩),
  -- Grid regulation / meter / LCD (203, 225, 230, 251)
  (203, ⟨"grid_regulation", "", 1, 0, 65535, []⟩),
  (225, ⟨"lcd_password", "", 1, 0, 65535, []⟩),
  (230, ⟨"meter_config", "", 1, 0, 65535, [.wattnode]⟩),
  (251, ⟨"wattnode_ct_directions", "", 1, 0, 65535, [.wattnode]⟩),
  -- Generator start/end times (256-259) — GENERATOR capability
  (256, ⟨"generator_start_time", "time", 1, 0, 15127, [.generator]⟩),
  (257, ⟨"generator_end_time", "time", 1, 0, 15127, [.generator]⟩),
  (258, ⟨"generator_start_time_1", "time", 1, 0, 15127, [.generator]⟩),
  (259, ⟨"generator_end_time_1", "time", 1, 0, 15127, [.generator]⟩)]
/-! ## The 7-day schedule block (500-723) -/

def days : List String := ["mon", "tue", "wed", "thu", "fri", "sat", "sun"]

def scheduleModules : List (String × Nat × String) :=
  [("ac_charge", 500, "% / SOC"), ("forced_charge", 556, "A / SOC"),
    ("forced_discharge", 612, "A / SOC"), ("peak_shaving", 668, "W / SOC")]

/-- The four registers of one period of one day. -/
def schedulePeriod (module day powerUnit : String) (dayBase period : Nat) :
    List (Nat × HoldingRegister) :=
  let periodBase := dayBase + (period - 1) * 4
  let stem := s!"{module}_schedule_{day}_p{period}"
  [(periodBase, ⟨stem ++ "_power_soc", powerUnit, 1, 0, 65535, [.sevenDaySchedule]⟩),
    (periodBase + 1, ⟨stem ++ "_voltage", "V", 0.1, 0, 6000, [.sevenDaySchedule]⟩),
    (periodBase + 2, ⟨stem ++ "_start", "time", 1, 0, 15127, [.sevenDaySchedule]⟩),
    (periodBase + 3, ⟨stem ++ "_end", "time", 1, 0, 15127, [.sevenDaySchedule]⟩)]

def sevenDayRegisters : List (Nat × HoldingRegister) :=
  scheduleModules.flatMap fun (module, base, powerUnit) =>
    days.zipIdx.flatMap fun (day, dayIdx) =>
      [1, 2].flatMap fun period => schedulePeriod module day powerUnit (base + dayIdx * 8) period

def holdingRegisters : List (Nat × HoldingRegister) := baseRegisters ++ sevenDayRegisters

/-! ## Lookups -/

/-- `HOLDING_REGISTERS.get(reg)`. -/
def holdingRegister (reg : Nat) : Option HoldingRegister := holdingRegisters.lookup reg

/-- `HOLDING_BY_NAME.get(name)`. -/
def holdingByName (name : String) : Option Nat :=
  (holdingRegisters.map fun r => (r.2.name, r.1)).lookup name

/-- The rows of a table that a model supports. -/
def filterHoldingRegisters (table : List (Nat × HoldingRegister)) (model : String) :
    List (Nat × HoldingRegister) :=
  table.filter fun r => registerApplies (capabilitiesFor model) r.2.capabilities

/-- `reg in filter_holding_registers(HOLDING_REGISTERS, model)`. -/
def supports (model : String) (reg : Nat) : Bool :=
  (filterHoldingRegisters holdingRegisters model).any fun r => r.1 == reg

/-! ## The table as a whole -/

theorem holdingRegisters_wf :
    ∀ r ∈ holdingRegisters, r.2.min ≤ r.2.max ∧ (r.2.scale = 1 ∨ r.2.scale = 0.1 ∨ r.2.scale = 0.01) ∧
      r.1 < 65536 := by
  decide +kernel

/-- Every register of the table has a 16-bit address. -/
theorem holdingByName_le {name : String} {reg : Nat} (h : holdingByName name = some reg) :
    reg ≤ 0xFFFF := by
  obtain ⟨l₁, l₂, hl, -⟩ := List.lookup_eq_some_iff.mp h
  have hmem : (name, reg) ∈ holdingRegisters.map fun r => (r.2.name, r.1) := by
    rw [hl]
    simp
  obtain ⟨r, hr, hpair⟩ := List.mem_map.mp hmem
  have hlt := (holdingRegisters_wf r hr).2.2
  have hreg : r.1 = reg := congrArg Prod.snd hpair
  omega

end LuxMon
