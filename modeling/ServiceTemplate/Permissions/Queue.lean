import ServiceTemplate.Foundations.Run
import ServiceTemplate.Permissions.AddPermissions

/-!
# The queue of `permissions.added`

First deliveries follow the order of publication.  A message that the handler
does not consume waits, and is delivered again while other messages go on being
delivered.  The permissions of a user are those of the message that was consumed
last among the messages that list the user.
-/

namespace ServiceTemplate.Permissions

open ServiceTemplate.Users

/-- A published message with its place in the order of publication. -/
structure Delivery where
  index : Nat
  message : AddedMessage
  deriving DecidableEq

structure QueueState where
  users : ServiceState
  service : PermissionsService
  /-- all messages, the newest one first -/
  published : List Delivery := []
  /-- the messages that have not been delivered yet, the oldest one first -/
  queue : List Delivery := []
  retrying : List Delivery := []
  /-- the consumed messages, the last one first -/
  consumed : List Delivery := []

inductive QueueLabel where
  | publish (message : AddedMessage)
  | createUser (generated : Uuid) (user : UserCreateDTO)
  | deliver
  | redeliver (delivery : Delivery)

namespace QueueState

/-- Hand a message to the handler.  A message for which the handler throws is not
consumed either. -/
def handle (state : QueueState) (delivery : Delivery) : QueueState :=
  match addPermissionsHandler state.users state.service delivery.message with
  | .ok (service, .success) =>
      { state with service := service, consumed := delivery :: state.consumed }
  | .ok (service, .retryLater) =>
      { state with service := service, retrying := delivery :: state.retrying }
  | .error _ => { state with retrying := delivery :: state.retrying }

/-- The message that a step delivers, and the state without it. -/
def taken (state : QueueState) : QueueLabel → Option (Delivery × QueueState)
  | .deliver =>
      match state.queue with
      | [] => none
      | delivery :: queue => some (delivery, { state with queue := queue })
  | .redeliver delivery =>
      if delivery ∈ state.retrying then
        some (delivery, { state with retrying := state.retrying.erase delivery })
      else none
  | _ => none

def step (state : QueueState) : QueueLabel → Option QueueState
  | .publish message =>
      let delivery : Delivery := ⟨state.published.length, message⟩
      some
        { state with
          published := delivery :: state.published
          queue := state.queue ++ [delivery] }
  | .createUser generated user =>
      some { state with users := (UserService.createUser state.users generated user).1 }
  | label => (state.taken label).map fun (delivery, rest) => rest.handle delivery

/-- No message is in flight or waits for a retry. -/
def Quiescent (state : QueueState) : Prop :=
  state.queue = [] ∧ state.retrying = []

instance (state : QueueState) : Decidable state.Quiescent :=
  inferInstanceAs (Decidable (_ ∧ _))

def initial (users : ServiceState) : QueueState :=
  { users := users, service := PermissionsService.empty }

end QueueState

/-- The message lists the user of an identifier. -/
def AddedMessage.lists (uuid : Uuid) (message : AddedMessage) : Bool :=
  message.userIds.any fun userId => Uuid.parse userId = some uuid

/-- The permissions in the first message of a list that lists a user. -/
def permissionsIn (uuid : Uuid) (deliveries : List Delivery) : Option (List String) :=
  (deliveries.find? (·.message.lists uuid)).map (·.message.permissions)

/-! ## What one delivery does -/

section Handler

variable {users : ServiceState} {service after : PermissionsService}
variable {message : AddedMessage}

theorem eq_of_retryLater
    (retry : addPermissionsHandler users service message = .ok (after, .retryLater)) :
    after = service := by
  unfold addPermissionsHandler at retry
  split at retry
  · cases retry
  · split at retry <;> cases retry
    rfl

/-- A consumed message sets the permissions of the users it lists, and of no
others. -/
theorem permissionsOf_text_of_success
    (success : addPermissionsHandler users service message = .ok (after, .success))
    (uuid : Uuid) :
    after.permissionsOf uuid.text =
      if message.lists uuid then some message.permissions
      else service.permissionsOf uuid.text := by
  have reads : ∃ ids, message.userIds.mapM toUuid = .ok ids := by
    cases read : message.userIds.mapM toUuid with
    | ok ids => exact ⟨ids, rfl⟩
    | error error =>
        have refused : UserService.getUsers users message.userIds =
            .error (.storage error) := by
          simp only [UserService.getUsers, UserRepository.getUsers, read]
          rfl
        simp [addPermissionsHandler, refused] at success
  obtain ⟨ids, read⟩ := reads
  have sameIds := mapM_toUuid_eq_ok read
  have listed : uuid.text ∈ ids.map Uuid.text ↔ message.lists uuid = true := by
    rw [List.mem_map_of_injective Uuid.text_injective]
    have member : some uuid ∈ message.userIds.map Uuid.parse ↔ uuid ∈ ids := by
      rw [sameIds, List.mem_map_of_injective fun _ _ => Option.some.inj]
    rw [← member]
    simp [AddedMessage.lists]
  rw [permissionsOf_of_success read success]
  simp only [listed]

end Handler

/-! ## The message consumed last -/

namespace QueueState

variable {state : QueueState} {uuid : Uuid}

/-- Every message is in one of the lists, and the permissions of a user are those
of the message consumed last among those that list the user. -/
structure Tracked (state : QueueState) : Prop where
  perm : (state.queue ++ (state.retrying ++ state.consumed)).Perm state.published
  permissions : ∀ uuid,
    state.service.permissionsOf uuid.text = permissionsIn uuid state.consumed

/-- When the given message has been consumed, no message that lists the user is
consumed any more. -/
def NotOvertaken (uuid : Uuid) (newest : Delivery) (state : QueueState)
    (label : QueueLabel) : Prop :=
  newest ∈ state.consumed →
    ∀ delivery rest after, state.taken label = some (delivery, rest) →
      addPermissionsHandler state.users state.service delivery.message =
        .ok (after, .success) →
      delivery.message.lists uuid = false

/-- The given message is the one consumed last among those that list the user,
unless it has not been consumed. -/
def ConsumedLast (uuid : Uuid) (newest : Delivery) (state : QueueState) : Prop :=
  newest ∈ state.consumed →
    state.consumed.find? (·.message.lists uuid) = some newest

/-- A delivery takes one message out, and nothing else. -/
theorem taken_spec {label : QueueLabel} {delivery : Delivery} {rest : QueueState}
    (takes : state.taken label = some (delivery, rest)) :
    (state.queue ++ (state.retrying ++ state.consumed)).Perm
        (delivery :: (rest.queue ++ (rest.retrying ++ rest.consumed))) ∧
      rest.users = state.users ∧ rest.service = state.service ∧
      rest.published = state.published ∧ rest.consumed = state.consumed := by
  cases label with
  | deliver =>
      simp only [taken] at takes
      split at takes <;> cases takes
      next queued =>
      rw [queued]
      exact ⟨.refl _, rfl, rfl, rfl, rfl⟩
  | redeliver chosen =>
      simp only [taken] at takes
      split at takes <;> cases takes
      next waiting =>
      refine ⟨?_, rfl, rfl, rfl, rfl⟩
      have moved := (List.perm_cons_erase waiting).append_right state.consumed
      exact (moved.append_left state.queue).trans List.perm_middle
  | _ => cases takes

/-- The messages are those of before with the delivered one back in some list. -/
theorem handle_perm (delivery : Delivery) :
    let handled := state.handle delivery
    (handled.queue ++ (handled.retrying ++ handled.consumed)).Perm
      (delivery :: (state.queue ++ (state.retrying ++ state.consumed))) := by
  simp only [handle]
  split
  · exact (List.perm_middle.append_left state.queue).trans List.perm_middle
  · exact List.perm_middle
  · exact List.perm_middle

theorem handle_published (delivery : Delivery) :
    (state.handle delivery).published = state.published := by
  simp only [handle]
  split <;> rfl

theorem handle_permissions (delivery : Delivery)
    (permissions : ∀ uuid,
      state.service.permissionsOf uuid.text = permissionsIn uuid state.consumed)
    (uuid : Uuid) :
    (state.handle delivery).service.permissionsOf uuid.text =
      permissionsIn uuid (state.handle delivery).consumed := by
  simp only [handle]
  split
  · next service success =>
    rw [permissionsOf_text_of_success success, permissions]
    unfold permissionsIn
    rw [List.find?_cons]
    cases delivery.message.lists uuid <;> rfl
  · next service retry =>
    rw [eq_of_retryLater retry]
    exact permissions uuid
  · exact permissions uuid

theorem Tracked.step (tracked : state.Tracked) {label : QueueLabel} {next : QueueState}
    (steps : state.step label = some next) : next.Tracked := by
  have delivers (takesOrNot : (state.taken label).map
      (fun (delivery, rest) => rest.handle delivery) = some next) : next.Tracked := by
    obtain ⟨⟨delivery, rest⟩, takes, rfl⟩ := Option.map_eq_some_iff.mp takesOrNot
    obtain ⟨moved, -, sameService, samePublished, sameConsumed⟩ := taken_spec takes
    constructor
    · rw [handle_published, samePublished]
      exact ((handle_perm delivery).trans moved.symm).trans tracked.perm
    · refine handle_permissions delivery fun uuid => ?_
      rw [sameService, sameConsumed]
      exact tracked.permissions uuid
  cases label with
  | publish message =>
      cases steps
      refine ⟨?_, tracked.permissions⟩
      rw [List.append_assoc, List.singleton_append]
      exact List.perm_middle.trans (tracked.perm.cons _)
  | createUser generated user =>
      cases steps
      exact ⟨tracked.perm, tracked.permissions⟩
  | deliver => exact delivers steps
  | redeliver delivery => exact delivers steps

/-- A message stays the one consumed last until a message that lists the user
overtakes it. -/
theorem ConsumedLast.step {newest : Delivery} (lists : newest.message.lists uuid = true)
    (consumedLast : ConsumedLast uuid newest state) {label : QueueLabel} {next : QueueState}
    (steps : state.step label = some next)
    (notOvertaken : NotOvertaken uuid newest state label) :
    ConsumedLast uuid newest next := by
  have delivers (takesOrNot : (state.taken label).map
      (fun (delivery, rest) => rest.handle delivery) = some next) :
      ConsumedLast uuid newest next := by
    obtain ⟨⟨delivery, rest⟩, takes, rfl⟩ := Option.map_eq_some_iff.mp takesOrNot
    obtain ⟨-, sameUsers, sameService, -, sameConsumed⟩ := taken_spec takes
    unfold ConsumedLast
    simp only [handle]
    split
    · next service success =>
      rw [sameUsers, sameService] at success
      rw [sameConsumed]
      intro consumed
      by_cases isNewest : delivery = newest
      · rw [List.find?_cons_of_pos (by rw [isNewest]; exact lists), isNewest]
      · have earlier := (List.mem_cons.mp consumed).resolve_left (Ne.symm isNewest)
        have unlisted := notOvertaken earlier delivery rest service takes success
        rw [List.find?_cons_of_neg (by simp [unlisted])]
        exact consumedLast earlier
    · rw [sameConsumed]; exact consumedLast
    · rw [sameConsumed]; exact consumedLast
  cases label with
  | publish message => cases steps; exact consumedLast
  | createUser generated user => cases steps; exact consumedLast
  | deliver => exact delivers steps
  | redeliver delivery => exact delivers steps

theorem Tracked.initial (users : ServiceState) : (initial users).Tracked :=
  ⟨.refl _, fun _ => rfl⟩

/-- When no message is left, all have been consumed. -/
theorem Tracked.mem_consumed_iff (tracked : state.Tracked) (quiescent : state.Quiescent)
    {delivery : Delivery} : delivery ∈ state.consumed ↔ delivery ∈ state.published := by
  have perm := tracked.perm
  rw [quiescent.1, quiescent.2, List.nil_append, List.nil_append] at perm
  exact perm.mem_iff

/-- When no message is left, a user has the permissions of the last published
message that lists the user, provided that no message that lists the user was
consumed after that one.  The earlier messages may have been consumed in any
order. -/
theorem permissionsOf_of_notOvertaken (users : ServiceState) (uuid : Uuid)
    (labels : List QueueLabel) (last : QueueState)
    (reaches : run step (initial users) labels = some last) (quiescent : last.Quiescent)
    (notOvertaken : ∀ newest, last.published.find? (·.message.lists uuid) = some newest →
      EachStep step (NotOvertaken uuid newest) (initial users) labels) :
    last.service.permissionsOf uuid.text = permissionsIn uuid last.published := by
  have tracked : last.Tracked :=
    run_invariant_of_step (fun _ _ _ tracked steps => tracked.step steps)
      (Tracked.initial users) reaches
  rw [tracked.permissions]
  unfold permissionsIn
  congr 1
  cases lastPublished : last.published.find? (·.message.lists uuid) with
  | none =>
      refine List.find?_eq_none.mpr fun delivery member => ?_
      have published := (tracked.mem_consumed_iff quiescent).mp member
      exact List.find?_eq_none.mp lastPublished delivery published
  | some newest =>
      have lists := List.find?_some lastPublished
      have consumedLast : ConsumedLast uuid newest last :=
        run_invariant
          (fun _ _ _ consumedLast kept steps => consumedLast.step lists steps kept)
          (fun consumed => absurd consumed List.not_mem_nil)
          (notOvertaken newest lastPublished) reaches
      apply consumedLast
      exact (tracked.mem_consumed_iff quiescent).mpr (List.mem_of_find?_eq_some lastPublished)

/-- A message that lists a user who exists and one who does not. -/
def forBoth : AddedMessage := ⟨[sampleId.text, secondId.text], ["read"], by simp⟩

def forOne : AddedMessage := ⟨[sampleId.text], ["write"], by simp⟩

def forOneAgain : AddedMessage := ⟨[sampleId.text], ["admin"], by simp⟩

def forOther : AddedMessage := ⟨[secondId.text], ["write"], by simp⟩

/-- The message for both users waits until the second user exists, and is
consumed after a later one.  Of the messages for the first user, the one published
last is consumed last; then a message for the second user is consumed. -/
def reordered : List QueueLabel :=
  [.publish forBoth, .deliver, .publish forOne, .deliver, .publish forOneAgain,
    .publish forOther,
    .createUser secondId { name := "Eve", age := none, email := "eve@example.com" },
    .redeliver ⟨0, forBoth⟩, .deliver, .deliver]

theorem permissionsOf_of_notOvertaken_reordered :
    ∃ last, run step (initial ⟨sampleTable, LayeredCache.empty⟩) reordered = some last ∧
      last.consumed = [⟨3, forOther⟩, ⟨2, forOneAgain⟩, ⟨0, forBoth⟩, ⟨1, forOne⟩] ∧
      last.service.permissionsOf sampleId.text = permissionsIn sampleId last.published := by
  have runs : (run step (initial ⟨sampleTable, LayeredCache.empty⟩) reordered).any
      (fun last => decide (last.Quiescent ∧
        last.consumed = [⟨3, forOther⟩, ⟨2, forOneAgain⟩, ⟨0, forBoth⟩, ⟨1, forOne⟩] ∧
        last.published.find? (·.message.lists sampleId) = some ⟨2, forOneAgain⟩)) = true := by
    decide
  obtain ⟨last, reaches, holds⟩ := (Option.any_eq_true _ _).mp runs
  obtain ⟨quiescent, consumed, lastPublished⟩ := of_decide_eq_true holds
  refine ⟨last, reaches, consumed, ?_⟩
  apply permissionsOf_of_notOvertaken _ sampleId reordered last reaches quiescent
  intro newest found
  rw [lastPublished] at found
  cases found
  have unlisted : EachStep step (fun state label => ⟨2, forOneAgain⟩ ∈ state.consumed →
      ∀ taken ∈ state.taken label, taken.1.message.lists sampleId = false)
      (initial ⟨sampleTable, LayeredCache.empty⟩) reordered := by
    decide
  exact unlisted.mono fun state label unlisted consumed delivery rest after takes _ =>
    unlisted consumed (delivery, rest) takes

/-- The message for both users waits until the second user exists.  Meanwhile the
later message is consumed. -/
def overtaken : List QueueLabel :=
  [.publish forBoth, .deliver, .publish forOne, .deliver,
    .createUser secondId { name := "Eve", age := none, email := "eve@example.com" },
    .redeliver ⟨0, forBoth⟩]

theorem overtaken_permissionsOf :
    ∃ last, run step (initial ⟨sampleTable, LayeredCache.empty⟩) overtaken = some last ∧
      last.Quiescent ∧
      last.service.permissionsOf sampleId.text ≠ permissionsIn sampleId last.published := by
  have runs : (run step (initial ⟨sampleTable, LayeredCache.empty⟩) overtaken).any
      (fun last => decide (last.Quiescent ∧ last.service.permissionsOf sampleId.text ≠
        permissionsIn sampleId last.published)) = true := by
    decide
  obtain ⟨last, reaches, undone⟩ := (Option.any_eq_true _ _).mp runs
  exact ⟨last, reaches, of_decide_eq_true undone⟩

end QueueState

end ServiceTemplate.Permissions
