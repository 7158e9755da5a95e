import ConstellationNq.App.NotificationProperties

/-!
# Resubmission of the newest record

A record may be resubmitted if no later record of its condition is retained on its route.
The question is put before the new record is committed, and "later" is decided by the
clock readings that the records carry, among those whose condition is written as an object.
Here the calls run with their clock readings, and the query is answered from the rows.
-/

set_option autoImplicit false

namespace ConstellationNq.App

open Library.Loop Protocol Store

section Model

variable (setting : Setting)

/-! ## The query -/

structure Record where
  intent : NotificationDeliveryIntent
  routeReference : String
  createdAt : String

def Record.notificationId (record : Record) : String := record.intent.notificationId

def Record.document (record : Record) : Json := (setting.parse record.intent.intentJson).toOption.getD .null

/-- Rows are numbered in the order of their insertion and are not deleted. -/
def intentRow (row : Record × Nat) : IntentRow where
  rowid := row.2
  notificationId := row.1.notificationId
  routeReference := row.1.routeReference
  createdAt := row.1.createdAt
  intent := row.1.document setting

/-- The last row so far. -/
def latest : Option IntentRow → IntentRow → Option IntentRow
  | none, row => some row
  | some best, row => if best.createdBefore row then some row else some best

def newerRows (records : List Record) (older : Record × Nat) : List IntentRow :=
  (records.zipIdx.map (intentRow setting)).filter (newerSameCondition setting.otherText (intentRow setting older))

def notificationDeliveryNewerSameCondition (records : List Record) (notificationId : String) : Option String :=
  match records.zipIdx.find? fun row => row.1.notificationId = notificationId with
  | none => none
  | some older => ((newerRows setting records older).foldl latest none).map IntentRow.notificationId

/-! ## Calls with their clock readings -/

/-- The calls, the rows of their records, and the clock reading that each call took last. -/
structure Watched where
  system : System
  records : List Record
  clocks : Nat → String

def Watched.start (store : StoreState) : Watched where
  system := .start store
  records := []
  clocks := fun _ => ""

def newRecord (createdAt : String) (call : Call) (notificationId payload : String) : Record where
  intent := deliveryIntent setting call notificationId payload
  routeReference := call.submission.intent.routeReference
  createdAt := createdAt

/-- The record that the call is about to commit. -/
def Phase.toCommit (createdAt : String) : Phase → Option Record
  | .prepared call _ notificationId payload => some (newRecord setting createdAt call notificationId payload)
  | _ => none

def insertedRecord (createdAt : String) (phase : Phase) : Phase → Option Record
  | .retained _ _ _ _ => phase.toCommit setting createdAt
  | _ => none

/-- The clock is read when the record is prepared. -/
def readClock (clocks : Nat → String) (process : Nat) (now : String) : Phase → Nat → String
  | .unretained _ _ => Function.update clocks process now
  | _ => clocks

def Watched.advance (watched : Watched) (process : Nat) (now : String) (next : Advance) : Watched where
  system := {
    store := next.store
    calls := Function.update watched.system.calls process next.phase
    dispatches := watched.system.dispatches ++ next.dispatch.toList }
  records := watched.records ++
    (insertedRecord setting (watched.clocks process) (watched.system.calls process) next.phase).toList
  clocks := readClock watched.clocks process now (watched.system.calls process)

/-- The interleavings that start without records; `allowed` restricts when a call may take
a step. -/
inductive WatchedRuns (allowed : Watched → Nat → Prop) : Watched → Prop where
  | start {store : StoreState} (reachable : Reachable setting.identityDigest store)
      (none : store.notificationDeliveryIntents = []) : WatchedRuns allowed (.start store)
  | advances {watched : Watched} (earlier : WatchedRuns allowed watched) (process : Nat) (effect : Effect)
      (now : String) {next : Advance}
      (advanced : (watched.system.calls process).advance setting effect watched.system.store = next)
      (answered : ∀ notificationId stableEventId enableNetwork members,
        watched.system.calls process = .reexamined notificationId stableEventId enableNetwork members →
          effect.newerSameCondition =
            notificationDeliveryNewerSameCondition setting watched.records notificationId)
      (permitted : allowed watched process) :
      WatchedRuns allowed (watched.advance setting process now next)
  | stops {watched : Watched} (earlier : WatchedRuns allowed watched) (process : Nat) :
      WatchedRuns allowed { watched with
        system := { watched.system with calls := Function.update watched.system.calls process .stopped } }
  | writes {watched : Watched} (earlier : WatchedRuns allowed watched) (operation : Operation)
      (unrelated : delivers operation = false) {after : StoreState}
      (accepted : watched.system.store.apply setting.identityDigest operation = .ok after) :
      WatchedRuns allowed { watched with system := { watched.system with store := after } }

/-! ## Newest records -/

/-- The condition of a v2 record, as its intent is decoded. -/
def Record.condition (record : Record) : Option Condition :=
  if stringMember (record.document setting) "schema" = some intentV2 then
    ((record.document setting).get "condition").bind decodeCondition
  else none

/-- On the route of `older` a v2 record of its condition. -/
def sameCondition (older newer : Record) : Bool :=
  newer.routeReference == older.routeReference &&
    ((newer.condition setting).isSome && newer.condition setting == older.condition setting)

/-- Of the records of its condition on its route the named one was retained last. -/
def Newest (records : List Record) (notificationId : String) : Prop :=
  ∃ before origin after, records = before ++ origin :: after ∧ origin.notificationId = notificationId ∧
    ∀ later ∈ after, sameCondition setting origin later = false

/-- The clock did not step back between two records of one condition, and both write the
condition as an object. -/
structure InOrder (earlier later : Record) : Prop where
  clock : earlier.createdAt ≤ later.createdAt
  earlierWritten : writtenAsObject (earlier.document setting) = true
  laterWritten : writtenAsObject (later.document setting) = true

/-- The commit of a record is in order with the records of its condition, and no other
call is about to resubmit one of them. -/
structure Untroubled (watched : Watched) (process : Nat) (record : Record) : Prop where
  ordered : ∀ earlier ∈ watched.records, sameCondition setting earlier record → InOrder setting earlier record
  alone : ∀ other ≠ process, ∀ origin ∈ watched.records,
    (watched.system.calls other).origin = some origin.notificationId → sameCondition setting origin record = false

def Undisturbed (watched : Watched) (process : Nat) : Prop :=
  ∀ record ∈ (watched.system.calls process).toCommit setting (watched.clocks process),
    Untroubled setting watched process record

end Model

variable {watched : Watched} {process : Nat}

section Properties

variable {setting : Setting} {effect : Effect} {store : StoreState}

/-! ## The answer of the query -/

theorem foldl_latest_some (rows : List IntentRow) (best : IntentRow) : rows.foldl latest (some best) ≠ none := by
  induction rows generalizing best with
  | nil => exact nofun
  | cons row rows ih =>
      rw [List.foldl_cons, latest]
      split
      · exact ih row
      · exact ih best

theorem foldl_latest_eq_none {rows : List IntentRow} (absent : rows.foldl latest none = none) : rows = [] := by
  cases rows with
  | nil => rfl
  | cons row rows => exact absurd absent (foldl_latest_some rows row)

/-- Records of one condition stand in the order of their commits. -/
def Ordered (setting : Setting) (records : List Record) : Prop :=
  records.Pairwise fun earlier later => sameCondition setting earlier later → InOrder setting earlier later

theorem Record.condition_eq_some {record : Record} {condition : Condition}
    (found : record.condition setting = some condition) :
    stringMember (record.document setting) "schema" = some intentV2 ∧
      ∃ value, (record.document setting).get "condition" = some value ∧ decodeCondition value = some condition := by
  rw [Record.condition, Option.ite_none_right_eq_some, Option.bind_eq_some_iff] at found
  exact found

/-- The query names a later record of a condition that is in order. -/
theorem newerSameCondition_later {earlier later : Record × Nat} (same : sameCondition setting earlier.1 later.1 = true)
    (different : later.1.notificationId ≠ earlier.1.notificationId) (ordered : InOrder setting earlier.1 later.1)
    (behind : earlier.2 < later.2) :
    newerSameCondition setting.otherText (intentRow setting earlier) (intentRow setting later) = true := by
  rw [sameCondition, Bool.and_eq_true, Bool.and_eq_true, beq_iff_eq, beq_iff_eq] at same
  obtain ⟨route, present, equal⟩ := same
  obtain ⟨condition, found⟩ := Option.isSome_iff_exists.mp present
  obtain ⟨schema, _, newPresent, newDecoded⟩ := Record.condition_eq_some found
  obtain ⟨_, _, oldPresent, oldDecoded⟩ := Record.condition_eq_some (equal.symm.trans found)
  have created : (intentRow setting earlier).createdBefore (intentRow setting later) = true := by
    rcases lt_or_eq_of_le ordered.clock with before | same
    · simp [IntentRow.createdBefore, intentRow, before]
    · simp [IntentRow.createdBefore, intentRow, same, behind]
  rw [Comparable.newerSameCondition ⟨route, different, created⟩]
  exact (sameExtracted_iff schema oldPresent oldDecoded newPresent newDecoded ordered.earlierWritten
    ordered.laterWritten).mpr rfl

section Answer

variable {before after : List Record} {origin : Record}

theorem newerSameCondition_split
    (distinct : ((before ++ origin :: after).map Record.notificationId).Nodup) :
    notificationDeliveryNewerSameCondition setting (before ++ origin :: after) origin.notificationId =
      ((newerRows setting (before ++ origin :: after) (origin, before.length)).foldl latest none).map
        IntentRow.notificationId := by
  have earlier : ∀ row ∈ before.zipIdx, ¬ decide (row.1.notificationId = origin.notificationId) = true := by
    intro row listed same
    rw [List.map_append, List.nodup_append] at distinct
    have member : row.1 ∈ before := (List.mem_zipIdx_iff_getElem?.mp listed : before[row.2]? = some row.1) |>
      List.mem_of_getElem?
    exact distinct.2.2 _ (List.mem_map_of_mem member) _ List.mem_cons_self (of_decide_eq_true same)
  have found : (before ++ origin :: after).zipIdx.find? (fun row => row.1.notificationId = origin.notificationId) =
      some (origin, before.length) := by
    rw [List.zipIdx_append, List.find?_append, List.find?_eq_none.mpr earlier, List.zipIdx_cons]
    simp
  unfold notificationDeliveryNewerSameCondition
  rw [found]

/-- Where the records are in order, one without a newer record is the last. -/
theorem no_later_of_none (distinct : ((before ++ origin :: after).map Record.notificationId).Nodup)
    (ordered : Ordered setting (before ++ origin :: after))
    (absent : notificationDeliveryNewerSameCondition setting (before ++ origin :: after) origin.notificationId = none)
    {later : Record} (listed : later ∈ after) : sameCondition setting origin later = false := by
  rw [newerSameCondition_split distinct, Option.map_eq_none_iff] at absent
  have nothing := foldl_latest_eq_none absent
  obtain ⟨index, position⟩ := List.mem_iff_getElem?.mp listed
  have numbered : (later, before.length + 1 + index) ∈ (before ++ origin :: after).zipIdx := by
    rw [List.zipIdx_append, List.zipIdx_cons, List.mem_append, List.mem_cons, Nat.zero_add]
    exact .inr (.inr (List.mk_add_mem_zipIdx_iff_getElem?.mpr position))
  by_contra isSame
  have same : sameCondition setting origin later = true := by simpa using isSame
  have inOrder := (List.pairwise_cons.mp (List.pairwise_append.mp ordered).2.1).1 later listed same
  have different : later.notificationId ≠ origin.notificationId := by
    intro equal
    rw [List.map_append, List.nodup_append, List.map_cons, List.nodup_cons] at distinct
    exact distinct.2.1.1 (equal ▸ List.mem_map_of_mem listed)
  have passes : intentRow setting (later, before.length + 1 + index) ∈
      newerRows setting (before ++ origin :: after) (origin, before.length) :=
    List.mem_filter.mpr ⟨List.mem_map_of_mem numbered,
      newerSameCondition_later same different inOrder (by dsimp only; omega)⟩
  rw [nothing] at passes
  cases passes

end Answer

variable {notificationId : String} {records : List Record}

theorem newest_of_none (distinct : (records.map Record.notificationId).Nodup) (ordered : Ordered setting records)
    (listed : notificationId ∈ records.map Record.notificationId)
    (absent : notificationDeliveryNewerSameCondition setting records notificationId = none) :
    Newest setting records notificationId := by
  obtain ⟨origin, member, named⟩ := List.mem_map.mp listed
  obtain ⟨before, after, split⟩ := List.append_of_mem member
  subst split named
  exact ⟨before, origin, after, rfl, rfl, fun later => no_later_of_none distinct ordered absent⟩

theorem Newest.append (newest : Newest setting records notificationId) {record : Record}
    (other : ∀ origin ∈ records, origin.notificationId = notificationId → sameCondition setting origin record = false) :
    Newest setting (records ++ [record]) notificationId := by
  obtain ⟨before, origin, after, split, named, last⟩ := newest
  refine ⟨before, origin, after ++ [record], ?_, named, ?_⟩
  · rw [split, List.append_assoc, List.cons_append]
  · intro later listed
    rcases List.mem_append.mp listed with earlier | added
    · exact last later earlier
    · rw [List.mem_singleton.mp added]
      exact other origin (by rw [split]; simp) named

/-! ## Rows -/

theorem advance_traced (phase : Phase) : Traced effect store phase (phase.advance setting effect store).phase := by
  have moved := @advance_case setting effect store phase
  generalize phase.advance setting effect store = next at moved
  cases moved with
  | computes _ traced => exact traced
  | retains _ _ => exact .elsewhere rfl rfl
  | refuses _ => exact .elsewhere rfl rfl
  | claims _ _ => exact .elsewhere rfl rfl
  | dispatches => exact .elsewhere rfl rfl
  | records _ => exact .elsewhere rfl rfl

/-- Only a call that is prepared adds a row. -/
inductive RowCase (setting : Setting) (store : StoreState) (createdAt : String) : Phase → Advance → Prop where
  | keeps {phase : Phase} {next : Advance} (nothing : insertedRecord setting createdAt phase next.phase = none)
      (same : next.store.notificationDeliveryIntents = store.notificationDeliveryIntents) :
      RowCase setting store createdAt phase next
  | inserts {call : Call} {route : Route} {notificationId payload : String} {next : Advance}
      (row : insertedRecord setting createdAt (.prepared call route notificationId payload) next.phase =
        some (newRecord setting createdAt call notificationId payload))
      (intents : next.store.notificationDeliveryIntents =
        store.notificationDeliveryIntents ++ [deliveryIntent setting call notificationId payload])
      (gone : next.phase.origin = none) :
      RowCase setting store createdAt (.prepared call route notificationId payload) next

theorem insertedRecord_released {createdAt : String} {phase next : Phase} (released : next.owner = none) :
    insertedRecord setting createdAt phase next = none := by
  cases next with
  | retained call route notificationId payload => cases released
  | _ => cases phase <;> rfl

theorem advance_row (createdAt : String) (phase : Phase) :
    RowCase setting store createdAt phase (phase.advance setting effect store) := by
  have moved := @advance_case setting effect store phase
  generalize phase.advance setting effect store = next at moved
  cases moved with
  | computes released _ => exact .keeps (insertedRecord_released released) rfl
  | retains accepted inserted => exact .inserts rfl inserted.intents rfl
  | refuses accepted => exact .keeps rfl (append_appended accepted).intents
  | claims eligible accepted => exact .keeps rfl (append_appended accepted).intents
  | dispatches => exact .keeps rfl rfl
  | records accepted => exact .keeps rfl (append_appended accepted).intents

variable {allowed : Watched → Nat → Prop}

theorem WatchedRuns.runs (watches : WatchedRuns setting allowed watched) : SystemRuns setting watched.system := by
  induction watches with
  | start reachable none => exact .start reachable
  | advances _ process effect now advanced _ _ before => exact before.step (.advances process effect advanced)
  | stops _ process before => exact before.step (.stops process)
  | writes _ operation unrelated accepted before => exact before.step (.writes operation unrelated accepted)

/-! ## The invariant -/

/-- The record that a call reads or resubmits is retained, and what it resubmits is the
newest of its condition. -/
structure Phase.Current (setting : Setting) (records : List Record) (phase : Phase) : Prop where
  reopening : ∀ notificationId, phase.reopening = some notificationId →
    notificationId ∈ records.map Record.notificationId
  newest : ∀ notificationId, phase.origin = some notificationId → Newest setting records notificationId

structure Watched.Sound (setting : Setting) (watched : Watched) : Prop where
  rows : watched.records.map Record.intent = watched.system.store.notificationDeliveryIntents
  ordered : Ordered setting watched.records
  current : ∀ process, (watched.system.calls process).Current setting watched.records

theorem Watched.Sound.notificationIds (sound : watched.Sound setting) :
    watched.records.map Record.notificationId =
      watched.system.store.notificationDeliveryIntents.map NotificationDeliveryIntent.notificationId := by
  rw [← sound.rows, List.map_map]
  rfl

theorem Watched.Sound.keep (sound : watched.Sound setting)
    (distinct : (watched.records.map Record.notificationId).Nodup) {now : String} {next : Advance}
    (nothing : insertedRecord setting (watched.clocks process) (watched.system.calls process) next.phase = none)
    (same : next.store.notificationDeliveryIntents = watched.system.store.notificationDeliveryIntents)
    (traced : Traced effect watched.system.store (watched.system.calls process) next.phase)
    (answered : ∀ notificationId stableEventId enableNetwork members,
      watched.system.calls process = .reexamined notificationId stableEventId enableNetwork members →
        effect.newerSameCondition =
          notificationDeliveryNewerSameCondition setting watched.records notificationId) :
    (watched.advance setting process now next).Sound setting := by
  have records : (watched.advance setting process now next).records = watched.records := by
    rw [Watched.advance, nothing]
    exact List.append_nil _
  constructor
  · rw [records, sound.rows]
    exact same.symm
  · rw [records]
    exact sound.ordered
  · rw [records]
    refine (Function.forall_update_iff watched.system.calls fun _ phase =>
      phase.Current setting watched.records).mpr ⟨⟨?_, ?_⟩, fun other _ => sound.current other⟩
    · intro notificationId reopening
      rcases traced.reopening notificationId reopening with before | retained
      · exact (sound.current process).reopening notificationId before
      · rw [sound.notificationIds]
        exact retained
    · intro notificationId origin
      rcases traced.origin notificationId origin with before | ⟨stableEventId, enableNetwork, members, stood, absent⟩
      · exact (sound.current process).newest notificationId before
      · -- The question was put just now.
        rw [answered _ _ _ _ stood] at absent
        have listed := (sound.current process).reopening notificationId (by rw [stood, Phase.reopening])
        exact newest_of_none distinct sound.ordered listed absent

theorem Watched.Sound.insert (sound : watched.Sound setting) {now : String} {next : Advance} {call : Call}
    {route : Route} {payload : String}
    (stood : watched.system.calls process = .prepared call route notificationId payload)
    (row : insertedRecord setting (watched.clocks process) (.prepared call route notificationId payload) next.phase =
      some (newRecord setting (watched.clocks process) call notificationId payload))
    (intents : next.store.notificationDeliveryIntents = watched.system.store.notificationDeliveryIntents ++
      [deliveryIntent setting call notificationId payload]) (gone : next.phase.origin = none)
    (untroubled : Untroubled setting watched process
      (newRecord setting (watched.clocks process) call notificationId payload))
    (traced : Traced effect watched.system.store (watched.system.calls process) next.phase) :
    (watched.advance setting process now next).Sound setting := by
  have records : (watched.advance setting process now next).records =
      watched.records ++ [newRecord setting (watched.clocks process) call notificationId payload] := by
    rw [Watched.advance, stood, row]
    rfl
  have kept : ∀ listed ∈ watched.records.map Record.notificationId, listed ∈
      (watched.records ++ [newRecord setting (watched.clocks process) call notificationId payload]).map
        Record.notificationId := by
    intro listed member
    rw [List.map_append]
    exact List.mem_append_left _ member
  constructor
  · rw [records, List.map_append, sound.rows]
    exact intents.symm
  · rw [records]
    refine List.pairwise_append.mpr ⟨sound.ordered, List.pairwise_singleton .., ?_⟩
    intro earlier listed later added same
    cases List.mem_singleton.mp added
    exact untroubled.ordered earlier listed same
  · rw [records]
    refine (Function.forall_update_iff watched.system.calls fun _ phase => phase.Current setting
      (watched.records ++ [newRecord setting (watched.clocks process) call notificationId payload])).mpr
        ⟨⟨?_, ?_⟩, fun other different => ⟨?_, ?_⟩⟩
    · intro id reopening
      rcases traced.reopening id reopening with before | retained
      · exact kept id ((sound.current process).reopening id before)
      · rw [← sound.notificationIds] at retained
        exact kept id retained
    · rw [gone]
      exact nofun
    · exact fun id reopening => kept id ((sound.current other).reopening id reopening)
    · intro id resubmits
      refine ((sound.current other).newest id resubmits).append fun origin listed named => ?_
      rw [← named] at resubmits
      exact untroubled.alone other different origin listed resubmits

theorem Phase.current_of_idle {phase : Phase} (reopening : phase.reopening = none) (origin : phase.origin = none)
    (records : List Record) : phase.Current setting records where
  reopening := by
    rw [reopening]
    exact nofun
  newest := by
    rw [origin]
    exact nofun

theorem Watched.Sound.stop (sound : watched.Sound setting) (process : Nat) :
    Watched.Sound setting { watched with
      system := { watched.system with calls := Function.update watched.system.calls process .stopped } } where
  rows := sound.rows
  ordered := sound.ordered
  current := (Function.forall_update_iff watched.system.calls fun _ phase =>
    phase.Current setting watched.records).mpr
      ⟨Phase.current_of_idle rfl rfl watched.records, fun other _ => sound.current other⟩

theorem WatchedRuns.sound (watches : WatchedRuns setting (Undisturbed setting) watched) :
    watched.Sound setting := by
  induction watches with
  | start reachable none => exact ⟨none.symm, List.Pairwise.nil, fun _ => Phase.current_of_idle rfl rfl []⟩
  | @advances watched earlier process effect now next advanced answered undisturbed sound =>
      have distinct : (watched.records.map Record.notificationId).Nodup := by
        rw [sound.notificationIds]
        exact earlier.runs.sound.reachable.uniqueKeys.notification.intentNotificationId
      have traced := @advance_traced setting effect watched.system.store (watched.system.calls process)
      have moved := @advance_row setting effect watched.system.store (watched.clocks process)
        (watched.system.calls process)
      rw [advanced] at traced moved
      generalize stood : watched.system.calls process = phase at moved
      cases moved with
      | keeps nothing same => exact sound.keep distinct (stood ▸ nothing) same traced answered
      | inserts row intents gone =>
          exact sound.insert stood row intents gone (undisturbed _ (by rw [stood]; rfl)) traced
  | stops _ process sound => exact sound.stop process
  | writes _ operation unrelated accepted sound =>
      exact { sound with rows := sound.rows.trans (apply_sameDeliveries unrelated accepted).intents.symm }

/-! ## Schedules -/

/-- One step of a call, with what the world answers besides the query. -/
structure Move where
  process : Nat
  effect : Effect
  now : String

def Phase.answer (setting : Setting) (records : List Record) : Phase → Option String
  | .reexamined notificationId _ _ _ => notificationDeliveryNewerSameCondition setting records notificationId
  | _ => none

def Watched.move (setting : Setting) (watched : Watched) (move : Move) : Watched :=
  let phase := watched.system.calls move.process
  watched.advance setting move.process move.now
    (phase.advance setting { move.effect with newerSameCondition := phase.answer setting watched.records }
      watched.system.store)

def Permitted (setting : Setting) (allowed : Watched → Nat → Prop) (watched : Watched) : List Move → Prop
  | [] => True
  | move :: moves => allowed watched move.process ∧ Permitted setting allowed (watched.move setting move) moves

theorem WatchedRuns.follow (moves : List Move) (watches : WatchedRuns setting allowed watched)
    (permitted : Permitted setting allowed watched moves) :
    WatchedRuns setting allowed (moves.foldl (Watched.move setting) watched) := by
  induction moves generalizing watched with
  | nil => exact watches
  | cons move moves ih =>
      obtain ⟨first, rest⟩ := permitted
      refine ih (watches.advances move.process _ move.now rfl ?_ first) rest
      intro notificationId stableEventId enableNetwork members stood
      rw [stood]
      rfl

/-- A condition on the given processes under which a call is undisturbed if all others
are idle. -/
def Quiet (setting : Setting) (processes : List Nat) (watched : Watched) (process : Nat) : Prop :=
  ∀ record ∈ (watched.system.calls process).toCommit setting (watched.clocks process),
    (∀ earlier ∈ watched.records, sameCondition setting earlier record = true →
      earlier.createdAt ≤ record.createdAt ∧ writtenAsObject (earlier.document setting) = true ∧
        writtenAsObject (record.document setting) = true) ∧
    ∀ other ∈ processes, other ≠ process → (watched.system.calls other).origin = none

instance (processes : List Nat) (watched : Watched) (process : Nat) :
    Decidable (Quiet setting processes watched process) :=
  inferInstanceAs (Decidable (∀ record ∈ _, _ ∧ _))

instance decidablePermitted [∀ watched process, Decidable (allowed watched process)] (moves : List Move)
    (watched : Watched) : Decidable (Permitted setting allowed watched moves) :=
  match moves with
  | [] => .isTrue trivial
  | move :: moves =>
      have := decidablePermitted moves (watched.move setting move)
      inferInstanceAs (Decidable (_ ∧ _))

theorem Quiet.undisturbed {processes : List Nat} (quiet : Quiet setting processes watched process)
    (idle : ∀ other ∉ processes, watched.system.calls other = .idle) : Undisturbed setting watched process := by
  intro record commits
  obtain ⟨ordered, resting⟩ := quiet record commits
  constructor
  · intro earlier listed same
    obtain ⟨clock, earlierWritten, laterWritten⟩ := ordered earlier listed same
    exact ⟨clock, earlierWritten, laterWritten⟩
  · intro other different origin _ resubmits
    have nothing : (watched.system.calls other).origin = none := by
      by_cases watching : other ∈ processes
      · exact resting other watching different
      · rw [idle other watching]
        rfl
    rw [nothing] at resubmits
    cases resubmits

end Properties

namespace Sample

def resolve : Json := intent "resolve" "e2" (asObject [])

/-- The documents of a trigger, of its resolve, and of a resubmission of either. -/
def paged : Setting :=
  host [trigger, resolve, intent "trigger" "e3" (asObject []), intent "resolve" "e3" (asObject [])]

def moves (process : Nat) (request : Request) (notificationId now : String) (count : Nat) : List Move :=
  List.replicate count { process := process, effect := world request notificationId, now := now }

/-- A trigger is retained and refused, since the network is not enabled. -/
def triggered (now : String) : List Move := moves 0 (.submit "e1" "pager" false) "trigger" now 6

def resolved (now : String) : List Move := moves 1 (.submit "e2" "pager" false) "resolve" now 6

/-- A call stands before the commit of a resubmission of `origin`. -/
def Resubmits (watched : Watched) (process : Nat) (origin : String) : Prop :=
  ((watched.system.calls process).toCommit paged "").isSome = true ∧ (watched.system.calls process).origin = some origin

instance (watched : Watched) (process : Nat) (origin : String) : Decidable (Resubmits watched process origin) :=
  inferInstanceAs (Decidable (_ ∧ _))

theorem Resubmits.stands {origin : String} (resubmits : Resubmits watched process origin) :
    ∃ call route notificationId payload,
      watched.system.calls process = .prepared call route notificationId payload ∧
        call.resubmittedFrom = some origin := by
  obtain ⟨prepared, named⟩ := resubmits
  cases stood : watched.system.calls process with
  | prepared call route notificationId payload =>
      rw [stood] at named
      exact ⟨call, route, notificationId, payload, rfl, named⟩
  | _ =>
      rw [stood] at prepared
      cases prepared

end Sample

namespace Sample

end Sample

end ConstellationNq.App
