import ConstellationNq.App.Notification

/-!
# The identity of a retained delivery

A delivery is told apart by its stable event and its destination, twice: by the pair of
columns of the intent, and by one text of the outbox row that joins the two with a colon.
Both parts may hold colons, so the joined texts of different pairs can be equal, and then
the second pair is refused.
-/

set_option autoImplicit false

namespace ConstellationNq.App

open Library.Loop Protocol Store Store.StoreState

/-- A delivery as the submitter hands it to the store. -/
structure DeliveryRequest where
  notificationId : String
  stableEventId : String
  destinationIdentity : String
  attentionKind : String
  attentionReceiptDigest : Option String
  attentionPolicyDigest : String
  contentDigest : String
  intentJson : String

def idempotencyKey (stableEventId destinationIdentity : String) : String :=
  stableEventId ++ ":" ++ destinationIdentity

namespace DeliveryRequest

def notification (request : DeliveryRequest) : NotificationInput where
  notificationId := request.notificationId
  idempotencyKey := App.idempotencyKey request.stableEventId request.destinationIdentity
  findingEventId := none
  maxAttempts := 1

def intent (request : DeliveryRequest) : NotificationDeliveryIntent where
  notificationId := request.notificationId
  stableEventId := request.stableEventId
  destinationIdentity := request.destinationIdentity
  contentDigest := request.contentDigest
  intentJson := request.intentJson

end DeliveryRequest

/-- What `retain_notification_delivery` checks before it opens a transaction. -/
def validateDelivery (request : DeliveryRequest) : Except StoreError Unit := do
  validateDigest "attention_policy_digest" request.attentionPolicyDigest
  validateDigest "content_digest" request.contentDigest
  match request.attentionReceiptDigest with
  | some receipt => validateDigest "attention_receipt_digest" receipt
  | none => .ok ()
  ensure (request.attentionKind == "operator_assertion" ||
      request.attentionKind == "nightshift_receipt" && request.attentionReceiptDigest.isSome)
    (.invariant "notification delivery intent has no supported attention binding")

inductive NotificationDeliveryRetention where
  | inserted
  | existing (notificationId : String) (deliveryState : DeliveryState)
deriving DecidableEq

/-- `retain_notification_delivery` with its answer; the size of the intent is checked by its
table. -/
def retainDelivery (store : StoreState) (request : DeliveryRequest) :
    Except StoreError (NotificationDeliveryRetention × StoreState) := do
  validateDelivery request
  match deliveryIntentByIdentity store request.stableEventId request.destinationIdentity with
  | some existing => do
      let after ← store.retainNotificationDelivery request.notification request.intent
      return (.existing existing.notificationId (deliveryState store existing.notificationId), after)
  | none => do
      ensure (request.intentJson.utf8ByteSize ≤ 32768) (.sqlite "CHECK constraint failed: length(intent_json) <= 32768")
      let after ← store.retainNotificationDelivery request.notification request.intent
      return (.inserted, after)

/-- The stores that retained deliveries lead to, from one without notifications. -/
inductive Retentions : StoreState → Prop where
  | start {store : StoreState} (unique : UniqueKeys store) (foreign : ForeignKeys store)
      (noOutbox : store.notificationOutbox = []) (noIntents : store.notificationDeliveryIntents = []) :
      Retentions store
  | retain {store after : StoreState} {request : DeliveryRequest} {answer : NotificationDeliveryRetention}
      (earlier : Retentions store)
      (fresh : ∀ row ∈ store.notificationOutbox, row.notificationId ≠ request.notificationId)
      (retained : retainDelivery store request = .ok (answer, after)) : Retentions after

/-! ## What the store keeps -/

/-- Every outbox row is that of one intent, with its joined key. -/
structure Paired (store : StoreState) : Prop where
  unique : UniqueKeys store
  foreign : ForeignKeys store
  rows : store.notificationOutbox.map (fun row => (row.notificationId, row.idempotencyKey)) =
    store.notificationDeliveryIntents.map fun intent =>
      (intent.notificationId, idempotencyKey intent.stableEventId intent.destinationIdentity)

def withDelivery (store : StoreState) (request : DeliveryRequest) : StoreState :=
  (store.appendOutbox request.notification).appendIntent request.intent

variable {store : StoreState} {request : DeliveryRequest}

theorem retain_of_absent
    (absent : deliveryIntentByIdentity store request.stableEventId request.destinationIdentity = none) :
    store.retainNotificationDelivery request.notification request.intent = (withDelivery store request).commit := by
  unfold deliveryIntentByIdentity at absent
  unfold retainNotificationDelivery
  rw [show (store.notificationDeliveryIntents.find? fun existing =>
    existing.stableEventId = request.intent.stableEventId ∧
      existing.destinationIdentity = request.intent.destinationIdentity) = none from absent]
  rfl

variable {existing : NotificationDeliveryIntent}

theorem retain_of_present
    (present : deliveryIntentByIdentity store request.stableEventId request.destinationIdentity = some existing) :
    store.retainNotificationDelivery request.notification request.intent = do
      ensure (existing.contentDigest = request.contentDigest ∧ existing.intentJson = request.intentJson)
        (.invariant "notification identity is already retained with different canonical intent")
      return store := by
  unfold deliveryIntentByIdentity at present
  unfold retainNotificationDelivery
  rw [show (store.notificationDeliveryIntents.find? fun other =>
    other.stableEventId = request.intent.stableEventId ∧
      other.destinationIdentity = request.intent.destinationIdentity) = some existing from present]
  rfl

theorem Paired.withDelivery (paired : Paired store) (unique : UniqueKeys (withDelivery store request))
    (foreign : ForeignKeys (withDelivery store request)) : Paired (withDelivery store request) := by
  refine ⟨unique, foreign, ?_⟩
  change (store.notificationOutbox ++ [outboxRow request.notification]).map _ =
    (store.notificationDeliveryIntents ++ [request.intent]).map _
  rw [List.map_append, List.map_append, paired.rows]
  rfl

theorem Paired.retain {after : StoreState} {answer : NotificationDeliveryRetention} (paired : Paired store)
    (retained : retainDelivery store request = .ok (answer, after)) : Paired after := by
  obtain ⟨-, retained⟩ := check_bind_eq_ok.mp retained
  split at retained
  · rename_i existing present
    obtain ⟨next, kept, answered⟩ := bind_eq_ok.mp retained
    rw [retain_of_present present] at kept
    obtain ⟨_, -, same⟩ := bind_eq_ok.mp kept
    cases same
    cases answered
    exact paired
  · rename_i absent
    obtain ⟨-, retained⟩ := check_bind_eq_ok.mp retained
    obtain ⟨next, committed, answered⟩ := bind_eq_ok.mp retained
    rw [retain_of_absent absent] at committed
    obtain ⟨rfl, unique, foreign⟩ := commit_eq_ok committed
    cases answered
    exact paired.withDelivery unique foreign

theorem Retentions.paired (retentions : Retentions store) : Paired store := by
  induction retentions with
  | start unique foreign noOutbox noIntents => exact ⟨unique, foreign, by rw [noOutbox, noIntents]; rfl⟩
  | retain _ _ retained ih => exact ih.retain retained

/-! ## Inserting -/

/-- Some retained delivery of another pair has the same joined text. -/
def Clashes (store : StoreState) (request : DeliveryRequest) : Prop :=
  ∃ intent ∈ store.notificationDeliveryIntents,
    (intent.stableEventId, intent.destinationIdentity) ≠ (request.stableEventId, request.destinationIdentity) ∧
    idempotencyKey intent.stableEventId intent.destinationIdentity =
      idempotencyKey request.stableEventId request.destinationIdentity

theorem nodup_concat {α β : Type} {rows : List α} {key : α → β} (distinct : (rows.map key).Nodup) {row : α}
    (new : ∀ other ∈ rows, key other ≠ key row) : ((rows ++ [row]).map key).Nodup := by
  rw [List.map_append, List.map_singleton, List.nodup_append]
  refine ⟨distinct, List.nodup_singleton _, fun left leftMember right rightMember => ?_⟩
  obtain ⟨other, member, rfl⟩ := List.mem_map.mp leftMember
  rw [List.mem_singleton.mp rightMember]
  exact new other member

theorem Paired.mem_key (paired : Paired store) {row : NotificationOutbox} (member : row ∈ store.notificationOutbox) :
    ∃ intent ∈ store.notificationDeliveryIntents, intent.notificationId = row.notificationId ∧
      idempotencyKey intent.stableEventId intent.destinationIdentity = row.idempotencyKey := by
  have mapped : (row.notificationId, row.idempotencyKey) ∈
      store.notificationOutbox.map fun row => (row.notificationId, row.idempotencyKey) := List.mem_map_of_mem member
  rw [paired.rows] at mapped
  obtain ⟨intent, intentMember, same⟩ := List.mem_map.mp mapped
  exact ⟨intent, intentMember, congrArg Prod.fst same, congrArg Prod.snd same⟩

theorem Paired.exists_key (paired : Paired store) {intent : NotificationDeliveryIntent}
    (member : intent ∈ store.notificationDeliveryIntents) :
    ∃ row ∈ store.notificationOutbox, row.notificationId = intent.notificationId ∧
      row.idempotencyKey = idempotencyKey intent.stableEventId intent.destinationIdentity := by
  have mapped : (intent.notificationId, idempotencyKey intent.stableEventId intent.destinationIdentity) ∈
      store.notificationDeliveryIntents.map fun intent =>
        (intent.notificationId, idempotencyKey intent.stableEventId intent.destinationIdentity) :=
    List.mem_map_of_mem member
  rw [← paired.rows] at mapped
  obtain ⟨row, rowMember, same⟩ := List.mem_map.mp mapped
  exact ⟨row, rowMember, congrArg Prod.fst same, congrArg Prod.snd same⟩

def pairOf (intent : NotificationDeliveryIntent) : String × String := (intent.stableEventId, intent.destinationIdentity)

def DeliveryRequest.pair (request : DeliveryRequest) : String × String :=
  (request.stableEventId, request.destinationIdentity)

def Unretained (store : StoreState) (request : DeliveryRequest) : Prop :=
  ∀ intent ∈ store.notificationDeliveryIntents, pairOf intent ≠ request.pair

theorem Unretained.absent (unretained : Unretained store request) :
    deliveryIntentByIdentity store request.stableEventId request.destinationIdentity = none := by
  refine List.find?_eq_none.mpr fun intent member same => unretained intent member ?_
  obtain ⟨event, destination⟩ := of_decide_eq_true same
  rw [pairOf, event, destination, DeliveryRequest.pair]

theorem Paired.present (paired : Paired store) (member : existing ∈ store.notificationDeliveryIntents)
    (same : pairOf existing = request.pair) :
    deliveryIntentByIdentity store request.stableEventId request.destinationIdentity = some existing := by
  cases found : deliveryIntentByIdentity store request.stableEventId request.destinationIdentity with
  | none =>
      have refused := List.find?_eq_none.mp found existing member
      exact absurd (decide_eq_true ⟨congrArg Prod.fst same, congrArg Prod.snd same⟩) refused
  | some other =>
      have matched : other.stableEventId = request.stableEventId ∧
          other.destinationIdentity = request.destinationIdentity := of_decide_eq_true (List.find?_some found :)
      obtain ⟨event, destination⟩ := matched
      have equal : pairOf other = pairOf existing := by
        rw [same, pairOf, event, destination, DeliveryRequest.pair]
      exact congrArg some (List.inj_on_of_nodup_map paired.unique.notification.intentIdentity
        (List.mem_of_find?_eq_some found) member equal)

theorem uniqueKeys_withDelivery (paired : Paired store) (unretained : Unretained store request)
    (fresh : ∀ row ∈ store.notificationOutbox, row.notificationId ≠ request.notificationId)
    (free : ¬ Clashes store request) : UniqueKeys (withDelivery store request) := by
  have old := paired.unique
  refine ⟨old.collection, old.evaluation, old.finding, ?_, old.savedCheck, old.origin, old.binding⟩
  refine ⟨nodup_concat old.notification.notificationId fresh,
    nodup_concat old.notification.idempotencyKey fun row member same => ?_, old.notification.attempt,
    nodup_concat old.notification.intentNotificationId fun intent member same => ?_,
    nodup_concat old.notification.intentIdentity unretained, old.notification.deliveryEvent⟩
  · obtain ⟨intent, intentMember, -, key⟩ := paired.mem_key member
    exact free ⟨intent, intentMember, unretained intent intentMember, key.trans same⟩
  · obtain ⟨row, rowMember, sameId, -⟩ := paired.exists_key member
    exact fresh row rowMember (sameId.trans same)

theorem not_uniqueKeys_withDelivery (paired : Paired store) (clashes : Clashes store request) :
    ¬ UniqueKeys (withDelivery store request) := by
  intro unique
  obtain ⟨intent, member, -, same⟩ := clashes
  obtain ⟨row, rowMember, -, key⟩ := paired.exists_key member
  have distinct := unique.notification.idempotencyKey
  change ((store.notificationOutbox ++ [outboxRow request.notification]).map _).Nodup at distinct
  rw [List.map_append, List.nodup_append] at distinct
  exact distinct.2.2 _ (List.mem_map_of_mem rowMember) _ (List.mem_singleton_self _) (key.trans same)

theorem foreignKeys_withDelivery (foreign : ForeignKeys store) (request : DeliveryRequest) :
    ForeignKeys (withDelivery store request) := by
  have kept : ∀ {id : String}, (∃ row ∈ store.notificationOutbox, row.notificationId = id) →
      ∃ row ∈ (withDelivery store request).notificationOutbox, row.notificationId = id :=
    fun ⟨row, member, same⟩ => ⟨row, List.mem_append_left _ member, same⟩
  refine ⟨(collectionForeignKeys_iff _).mpr ((collectionForeignKeys_iff store).mp foreign.collection),
    (evaluationForeignKeys_iff _).mpr ((evaluationForeignKeys_iff store).mp foreign.evaluation),
    (findingForeignKeys_iff _).mpr ((findingForeignKeys_iff store).mp foreign.finding), ?_,
    (savedCheckForeignKeys_iff _).mpr ((savedCheckForeignKeys_iff store).mp foreign.savedCheck),
    (originForeignKeys_iff _).mpr ((originForeignKeys_iff store).mp foreign.origin),
    (bindingForeignKeys_iff _).mpr ((bindingForeignKeys_iff store).mp foreign.binding)⟩
  have old := foreign.notification
  refine ⟨fun row member => ?_, fun attempt member => kept (old.attemptNotification attempt member),
    fun intent member => ?_, fun event member => ?_⟩
  · rcases List.mem_append.mp member with member | member
    · exact old.notificationEvent row member
    · rw [List.mem_singleton.mp member]
      intro eventId found
      cases found
  · rcases List.mem_append.mp member with member | member
    · exact kept (old.intentNotification intent member)
    · rw [List.mem_singleton.mp member]
      exact ⟨outboxRow request.notification, List.mem_append_right _ (List.mem_singleton_self _), rfl⟩
  · obtain ⟨intent, intentMember, same⟩ := old.deliveryIntent event member
    exact ⟨intent, List.mem_append_left _ intentMember, same⟩

theorem retainDelivery_clash (paired : Paired store) (unretained : Unretained store request) (clashes : Clashes store request) :
    ∃ error, retainDelivery store request = .error error := by
  cases retained : retainDelivery store request with
  | error error => exact ⟨error, rfl⟩
  | ok result =>
      obtain ⟨-, retained⟩ := check_bind_eq_ok.mp retained
      rw [unretained.absent] at retained
      obtain ⟨-, retained⟩ := check_bind_eq_ok.mp retained
      obtain ⟨next, committed, -⟩ := bind_eq_ok.mp retained
      rw [retain_of_absent unretained.absent] at committed
      exact absurd (commit_eq_ok committed).2.1 (not_uniqueKeys_withDelivery paired clashes)

section Retaining

variable (paired : Paired store) (valid : validateDelivery request = .ok ())

include paired valid

theorem retainDelivery_inserts (small : request.intentJson.utf8ByteSize ≤ 32768)
    (fresh : ∀ row ∈ store.notificationOutbox, row.notificationId ≠ request.notificationId)
    (unretained : Unretained store request) (free : ¬ Clashes store request) :
    retainDelivery store request = .ok (.inserted, withDelivery store request) := by
  have committed : (withDelivery store request).commit = .ok (withDelivery store request) := by
    rw [commit, if_neg (not_not.mpr (uniqueKeys_withDelivery paired unretained fresh free)),
      if_neg (not_not.mpr (foreignKeys_withDelivery paired.foreign request))]
  unfold retainDelivery
  rw [valid, unretained.absent]
  refine bind_eq_ok.mpr ⟨(), rfl, check_bind_eq_ok.mpr ⟨ensure_eq_ok.mpr small, ?_⟩⟩
  rw [retain_of_absent unretained.absent, committed]
  rfl

theorem retainDelivery_existing (member : existing ∈ store.notificationDeliveryIntents)
    (same : pairOf existing = request.pair) :
    (existing.contentDigest = request.contentDigest ∧ existing.intentJson = request.intentJson →
      retainDelivery store request =
        .ok (.existing existing.notificationId (deliveryState store existing.notificationId), store)) ∧
    (¬ (existing.contentDigest = request.contentDigest ∧ existing.intentJson = request.intentJson) →
      ∃ error, retainDelivery store request = .error error) := by
  have present := paired.present member same
  unfold retainDelivery
  rw [valid, present, retain_of_present present]
  constructor
  · intro equal
    rw [ensure, if_pos equal]
    rfl
  · intro different
    refine ⟨.invariant "notification identity is already retained with different canonical intent", ?_⟩
    rw [ensure, if_neg different]
    rfl

end Retaining

/-- What the identity of a delivery promises about one more of them. -/
structure PairDecides (store : StoreState) (request : DeliveryRequest) : Prop where
  inserts : Unretained store request → retainDelivery store request = .ok (.inserted, withDelivery store request)
  repeats : ∀ existing ∈ store.notificationDeliveryIntents, pairOf existing = request.pair →
    existing.contentDigest = request.contentDigest ∧ existing.intentJson = request.intentJson →
      retainDelivery store request =
        .ok (.existing existing.notificationId (deliveryState store existing.notificationId), store)
  refuses : ∀ existing ∈ store.notificationDeliveryIntents, pairOf existing = request.pair →
    ¬ (existing.contentDigest = request.contentDigest ∧ existing.intentJson = request.intentJson) →
      ∃ error, retainDelivery store request = .error error

/-- After any retained deliveries the pair alone decides about one more exactly if its joined
text is not that of another retained pair. -/
theorem pairDecides_iff (retentions : Retentions store) (valid : validateDelivery request = .ok ())
    (small : request.intentJson.utf8ByteSize ≤ 32768)
    (fresh : ∀ row ∈ store.notificationOutbox, row.notificationId ≠ request.notificationId) :
    PairDecides store request ↔ (Unretained store request → ¬ Clashes store request) := by
  have paired := retentions.paired
  constructor
  · intro decides unretained clashes
    obtain ⟨error, refused⟩ := retainDelivery_clash paired unretained clashes
    rw [decides.inserts unretained] at refused
    cases refused
  · intro free
    exact ⟨fun unretained => retainDelivery_inserts paired valid small fresh unretained (free unretained),
      fun existing member same => (retainDelivery_existing paired valid member same).1,
      fun existing member same => (retainDelivery_existing paired valid member same).2⟩

/-! Two pairs whose joined text is `disk:sda:ops`. -/

def sampleRequest (notificationId stableEventId destinationIdentity : String) : DeliveryRequest where
  notificationId := notificationId
  stableEventId := stableEventId
  destinationIdentity := destinationIdentity
  attentionKind := "operator_assertion"
  attentionReceiptDigest := none
  attentionPolicyDigest := "sha256:" ++ String.ofList (List.replicate 64 'a')
  contentDigest := "sha256:" ++ String.ofList (List.replicate 64 'b')
  intentJson := "0"

def sampleStore : StoreState := withDelivery StoreState.empty (sampleRequest "n1" "disk:sda" "ops")

theorem retentions_sampleStore : Retentions sampleStore := by
  have start : Retentions StoreState.empty := .start uniqueKeys_empty foreignKeys_empty rfl rfl
  have valid : validateDelivery (sampleRequest "n1" "disk:sda" "ops") = .ok () := by decide
  have inserted := retainDelivery_inserts start.paired valid (by decide) (fun row member => by cases member)
    (fun intent member => by cases member) (by rintro ⟨intent, member, -⟩; cases member)
  exact .retain start (fun row member => by cases member) inserted

theorem sampleStore_fresh : ∀ row ∈ sampleStore.notificationOutbox, row.notificationId ≠ "n2" := by
  intro row member
  rw [List.mem_singleton.mp member]
  decide

theorem pairDecides_iff_second : PairDecides sampleStore (sampleRequest "n2" "disk:sdb" "ops") := by
  refine (pairDecides_iff retentions_sampleStore (by decide) (by decide) sampleStore_fresh).mpr fun _ => ?_
  rintro ⟨intent, member, clash⟩
  rw [List.mem_singleton.mp member] at clash
  exact absurd clash (by decide)

theorem pair_refused_by_joined_text :
    ∃ store, Retentions store ∧ validateDelivery (sampleRequest "n2" "disk" "sda:ops") = .ok () ∧
      (∀ row ∈ store.notificationOutbox, row.notificationId ≠ "n2") ∧
      Unretained store (sampleRequest "n2" "disk" "sda:ops") ∧
      ∃ error, retainDelivery store (sampleRequest "n2" "disk" "sda:ops") = .error error := by
  have unretained : Unretained sampleStore (sampleRequest "n2" "disk" "sda:ops") := by
    intro intent member
    rw [List.mem_singleton.mp member]
    decide
  have clashes : Clashes sampleStore (sampleRequest "n2" "disk" "sda:ops") :=
    ⟨_, List.mem_singleton_self _, by decide, by decide⟩
  exact ⟨sampleStore, retentions_sampleStore, by decide, sampleStore_fresh, unretained,
    retainDelivery_clash retentions_sampleStore.paired unretained clashes⟩

end ConstellationNq.App
