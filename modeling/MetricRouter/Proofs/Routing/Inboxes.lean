import MetricRouter.Proofs.Run
import MetricRouter.Routing.Inbox

/-!
# Inboxes as bounded queues

An inbox is offered samples and gives them out again. What it answered on the way tells which samples it took in and
which ones were taken out of it, and these tell what waits in it.

* `Call`, `Event`, `call` — what can happen to an inbox, and what is seen of it;
* `admitted`, `received` — the samples that were taken in, and those that were taken out;
* `Agrees`, `agrees_call`, `agrees_after` — the invariant: the inbox agrees with what was seen of it;
* `admitted_after` — the main statement.
-/

namespace MetricRouter.Inbox

/-! ## Calls -/

/-- What can happen to an inbox. -/
inductive Call where
  /-- A sample is offered. -/
  | offer (m : Metric)
  /-- Up to so many samples are taken out. -/
  | takeOut (n : Nat)
  /-- The one who takes samples out wants no more of them. -/
  | shut
  /-- The one who takes samples out leaves. -/
  | close

/-- What is seen of a call. -/
inductive Event where
  | offered (m : Metric) (taken : Bool)
  | takenOut (ms : List Metric)
  | shut
  | closed

/-- What is seen of a call, and the inbox after it. -/
def call (i : Inbox) : Call → Event × Inbox
  | .offer m => (.offered m (i.offer m).1, (i.offer m).2)
  | .takeOut n => (.takenOut (i.takeOut n).1, (i.takeOut n).2)
  | .shut => (.shut, i.shut)
  | .close => (.closed, i.close)

/-- The inbox after calls that are made in order. -/
abbrev after (i : Inbox) (calls : List Call) : Inbox := Run.after call i calls

/-- What is seen of calls, in order. -/
abbrev events (i : Inbox) (calls : List Call) : List Event := Run.answers call i calls

/-- Does the call offer a sample? -/
def Call.isOffer : Call → Bool
  | .offer _ => true
  | _ => false

/-- Does the call end the taking in of samples? -/
def Call.ends : Call → Bool
  | .shut => true
  | .close => true
  | _ => false

/-- The sample that was taken in. -/
def Event.admitted? : Event → Option Metric
  | .offered m true => some m
  | _ => none

/-- The samples that were taken out. -/
def Event.received : Event → List Metric
  | .takenOut ms => ms
  | _ => []

/-- The samples that were taken in, in order. -/
def admitted (es : List Event) : List Metric := es.filterMap Event.admitted?

/-- The samples that were taken out, in order. -/
def received (es : List Event) : List Metric := es.flatMap Event.received

/-! ## What an inbox keeps -/

/-- **An inbox agrees with what was seen of it.** What was taken in was taken out, or it waits, or it is lost; nothing
is lost before the one who takes samples out has left, and nothing waits then. -/
structure Agrees (capacity : Nat) (calls : List Call) (es : List Event) (i : Inbox) : Prop where
  size : i.capacity = capacity
  isOpen : i.isOpen = !calls.any Call.ends
  accepted : i.accepted = (admitted es).length
  offers : i.accepted + i.rejected = calls.countP Call.isOffer
  room : i.waiting.length ≤ max capacity 1
  order : ∃ lost, admitted es = received es ++ i.waiting ++ lost ∧ (.close ∉ calls → lost = []) ∧
    (.close ∈ calls → i.waiting = [])

section Agrees

variable {capacity : Nat} {calls : List Call} {es : List Event} {i : Inbox}

theorem admitted_concat (es : List Event) (e : Event) : admitted (es ++ [e]) = admitted es ++ e.admitted?.toList := by
  cases h : e.admitted? <;> simp [admitted, h]

theorem received_concat (es : List Event) (e : Event) : received (es ++ [e]) = received es ++ e.received := by
  simp [received]

theorem agrees_create (capacity : Nat) : Agrees capacity [] [] (create capacity) where
  size := rfl
  isOpen := rfl
  accepted := rfl
  offers := rfl
  room := Nat.zero_le _
  order := ⟨[], rfl, fun _ => rfl, fun h => absurd h List.not_mem_nil⟩

/-- **An offer comes out in one of two ways**: the sample goes to the end of what waits, or it is only counted. -/
theorem offer_cases (i : Inbox) (m : Metric) :
    (i.isOpen = true ∧ i.waiting.length < i.room ∧
      i.offer m = (true, { i with waiting := i.waiting ++ [m], accepted := i.accepted + 1 })) ∨
    (¬ (i.isOpen = true ∧ i.waiting.length < i.room) ∧
      i.offer m = (false, { i with rejected := i.rejected + 1 })) := by
  unfold offer
  split
  · rename_i h
    obtain ⟨hopen, hroom⟩ := Bool.and_eq_true_iff.mp h
    exact Or.inl ⟨hopen, of_decide_eq_true hroom, rfl⟩
  · rename_i h
    refine Or.inr ⟨?_, rfl⟩
    rintro ⟨hopen, hroom⟩
    exact h (by simp [hopen, hroom])

/-- An inbox takes a sample in exactly when nobody has ended the taking in and there is room. -/
theorem Agrees.taken_iff (h : Agrees capacity calls es i) (m : Metric) :
    (i.offer m).1 = true ↔ (∀ k ∈ calls, k.ends = false) ∧ i.waiting.length < max capacity 1 := by
  have hopen : i.isOpen = true ↔ ∀ k ∈ calls, k.ends = false := by
    rw [h.isOpen]
    simp
  have hroom : i.room = max capacity 1 := by rw [Inbox.room, h.size]
  rw [← hopen, ← hroom]
  obtain ⟨hfree, hlt, hoffer⟩ | ⟨hfull, hoffer⟩ := offer_cases i m
  · simp [hoffer, hfree, hlt]
  · simp [hoffer, hfull]

theorem agrees_offer (h : Agrees capacity calls es i) (m : Metric) :
    Agrees capacity (calls ++ [.offer m]) (es ++ [.offered m (i.offer m).1]) (i.offer m).2 := by
  have hclose : Call.close ∈ calls ++ [.offer m] ↔ Call.close ∈ calls := by simp
  have hopen : i.isOpen = !(calls ++ [Call.offer m]).any Call.ends := by simp [h.isOpen, Call.ends]
  have hcount := h.offers
  obtain ⟨lost, horder, hkept, hgone⟩ := h.order
  obtain ⟨hfree, hroom, hoffer⟩ | ⟨-, hoffer⟩ := offer_cases i m
  · -- nobody has left, so nothing is lost that would come before the new sample
    have hstays : Call.close ∉ calls := by
      intro hmem
      have hends := h.isOpen.symm.trans hfree
      simp only [Bool.not_eq_true', List.any_eq_false] at hends
      exact hends _ hmem rfl
    rw [Inbox.room, h.size] at hroom
    rw [hoffer]
    refine ⟨h.size, hopen, ?_, ?_, ?_, [], ?_, fun _ => rfl, fun hmem => absurd (hclose.mp hmem) hstays⟩
    · simp [admitted_concat, Event.admitted?, h.accepted]
    · simp [Call.isOffer]
      omega
    · simpa using hroom
    · simp [admitted_concat, received_concat, Event.admitted?, Event.received, horder, hkept hstays]
  · rw [hoffer]
    refine ⟨h.size, hopen, ?_, ?_, h.room, lost, ?_, ?_, ?_⟩
    · simp [admitted_concat, Event.admitted?, h.accepted]
    · simp [Call.isOffer]
      omega
    · simpa [admitted_concat, received_concat, Event.admitted?, Event.received] using horder
    · rwa [hclose]
    · rwa [hclose]

theorem agrees_takeOut (h : Agrees capacity calls es i) (n : Nat) :
    Agrees capacity (calls ++ [.takeOut n]) (es ++ [.takenOut (i.takeOut n).1]) (i.takeOut n).2 := by
  have hclose : Call.close ∈ calls ++ [.takeOut n] ↔ Call.close ∈ calls := by simp
  have hroom := h.room
  obtain ⟨lost, horder, hkept, hgone⟩ := h.order
  refine ⟨h.size, ?_, ?_, ?_, ?_, lost, ?_, ?_, ?_⟩
  · simp [takeOut, Call.ends, h.isOpen]
  · simp [takeOut, admitted_concat, Event.admitted?, h.accepted]
  · simpa [takeOut, Call.isOffer] using h.offers
  · simp only [takeOut, List.length_drop]
    omega
  · have hsplit : i.waiting.take n ++ i.waiting.drop n = i.waiting := List.take_append_drop n i.waiting
    simp only [takeOut, admitted_concat, received_concat, Event.admitted?, Event.received, Option.toList_none,
      List.append_nil]
    rw [List.append_assoc (received es), hsplit, horder]
  · rwa [hclose]
  · rw [hclose]
    intro hmem
    simp [takeOut, hgone hmem]

theorem agrees_shut (h : Agrees capacity calls es i) :
    Agrees capacity (calls ++ [.shut]) (es ++ [.shut]) i.shut := by
  have hclose : Call.close ∈ calls ++ [.shut] ↔ Call.close ∈ calls := by simp
  obtain ⟨lost, horder, hkept, hgone⟩ := h.order
  refine ⟨h.size, ?_, ?_, ?_, h.room, lost, ?_, ?_, ?_⟩
  · simp [shut, Call.ends]
  · simp [shut, admitted_concat, Event.admitted?, h.accepted]
  · simpa [shut, Call.isOffer] using h.offers
  · simpa [shut, admitted_concat, received_concat, Event.admitted?, Event.received] using horder
  · rwa [hclose]
  · rwa [hclose]

theorem agrees_close (h : Agrees capacity calls es i) :
    Agrees capacity (calls ++ [.close]) (es ++ [.closed]) i.close := by
  obtain ⟨lost, horder, -, -⟩ := h.order
  refine ⟨h.size, ?_, ?_, ?_, Nat.zero_le _, i.waiting ++ lost, ?_, ?_, fun _ => rfl⟩
  · simp [close, Call.ends]
  · simp [close, admitted_concat, Event.admitted?, h.accepted]
  · simpa [close, Call.isOffer] using h.offers
  · simp [close, admitted_concat, received_concat, Event.admitted?, Event.received, horder]
  · intro hmem
    exact absurd (List.mem_append_right calls (List.mem_singleton_self _)) hmem

/-- **Every call keeps the agreement.** -/
theorem agrees_call (h : Agrees capacity calls es i) (k : Call) :
    Agrees capacity (calls ++ [k]) (es ++ [(call i k).1]) (call i k).2 := by
  cases k with
  | offer m => exact agrees_offer h m
  | takeOut n => exact agrees_takeOut h n
  | shut => exact agrees_shut h
  | close => exact agrees_close h

/-- **An inbox agrees with what was seen of it, whatever happened.** -/
theorem agrees_after (h : Agrees capacity calls es i) (more : List Call) :
    Agrees capacity (calls ++ more) (es ++ events i more) (after i more) := by
  induction more generalizing calls es i with
  | nil => simpa [events, after, Run.answers, Run.after] using h
  | cons k rest ih =>
    have hrest := ih (agrees_call h k)
    rw [List.append_assoc, List.append_assoc] at hrest
    exact hrest

end Agrees

/-- **An inbox is a bounded queue.** Whatever happens to an inbox of any capacity:

* every offer is counted once, as accepted or as rejected, and the accepted ones are the samples that were taken in;
* a sample is taken in exactly when nobody has shut or given up the inbox before and fewer samples wait than there is
  room for, which is room for one at least; and never more of them wait;
* what was taken out, followed by what waits, is what was taken in: in the same order and once each;
* once the one who takes samples out has left nothing waits, and what was taken out is a front part of what was taken
  in. -/
theorem admitted_after (capacity : Nat) (calls : List Call) :
    let i := after (create capacity) calls
    let es := events (create capacity) calls
    i.accepted + i.rejected = calls.countP Call.isOffer ∧
    i.accepted = (admitted es).length ∧
    (∀ m, (i.offer m).1 = true ↔ (∀ k ∈ calls, k.ends = false) ∧ i.waiting.length < max capacity 1) ∧
    i.waiting.length ≤ max capacity 1 ∧
    (.close ∉ calls → received es ++ i.waiting = admitted es) ∧
    (.close ∈ calls → i.waiting = [] ∧ received es <+: admitted es) := by
  intro i es
  have h : Agrees capacity calls es i := agrees_after (agrees_create capacity) calls
  obtain ⟨lost, horder, hkept, hgone⟩ := h.order
  refine ⟨h.offers, h.accepted, h.taken_iff, h.room, fun hopen => ?_, fun hclosed => ⟨hgone hclosed, ?_⟩⟩
  · rw [horder, hkept hopen, List.append_nil]
  · rw [horder, List.append_assoc]
    exact List.prefix_append _ _

end MetricRouter.Inbox
