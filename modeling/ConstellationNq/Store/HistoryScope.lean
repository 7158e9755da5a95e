import ConstellationNq.Store.Encoding
import Mathlib.Data.String.Basic
import Mathlib.Logic.Function.Basic

/-!
# Certified frontiers

A frontier holds, per history table, the highest covered rowid with the count,
the accumulator and the boundary digest of the covered rows.
-/

set_option autoImplicit false

namespace ConstellationNq.Store

open Std (TreeMap)

def historyTables : List String := [
  "admission_records", "admitted_reports", "binding_materialization_events", "diagnostic_artifact_commitments",
  "diagnostic_artifact_import_events", "diagnostic_artifact_payloads", "evaluation_runs", "evaluation_watermarks",
  "finding_events", "finding_evidence", "genesis_records", "imported_diagnostic_artifact_origins",
  "instance_binding_events", "legacy_references", "legacy_v3_watcher_run_intake_gaps",
  "local_diagnostic_artifact_origins", "local_provider_admissions", "local_successor_acquisition_events",
  "local_successor_acquisition_intents", "local_watcher_provider_intakes", "maintenance_declarations",
  "notification_attempts", "notification_delivery_events", "notification_delivery_intents", "notification_outbox",
  "observation_coverage", "observations", "profile_descriptor_snapshots", "provider_intake_acknowledgments",
  "provider_intake_attempts", "raw_submissions", "refusals", "report_coverage", "report_errors",
  "retention_tombstones", "saved_check_definitions", "saved_check_events", "status_events", "upgrade_receipts",
  "watcher_runs"]

structure TableFrontier where
  maxRowid : Option Int
  rows : Int
  accumulator : String
  boundary : Option String
deriving DecidableEq

structure HistoryFrontier where
  tables : TreeMap String TableFrontier
  evaluationSequence : Int

def HistoryFrontier.maxRowid (frontier : HistoryFrontier) (table : String) : Option Int :=
  frontier.tables[table]?.bind TableFrontier.maxRowid

structure ValidationWatermark where
  frontier : HistoryFrontier
  validatedAt : String

end ConstellationNq.Store
