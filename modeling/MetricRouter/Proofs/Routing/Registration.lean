import Mathlib
import MetricRouter.Proofs.Pattern.Memo
import MetricRouter.Routing.Router

/-!
# Destinations of a router

What is done to the destinations of a router, as data, and what every router keeps.

* `Router.Edit`, `Router.edit`, `Router.edited` — a destination is registered or removed, or its patterns are
  replaced;
* `Router.keyed` — a router whose memos know names by a key that is given, such as a hash;
* `Router.Kept`, `kept_edited` — the invariant: destinations have different names, and the memos of their patterns
  change no answer;
* `Router.Numbered`, `numbered_edit` — serial numbers tell bindings apart;
* `Router.Serves`, `serves_of_mem` — a destination whose patterns match a name is served with its samples, once.
-/

namespace MetricRouter.Router

open Pattern (Matchers Group)

variable {σ : Type}

/-- What can be done to the destinations. -/
inductive Edit where
  | register (d : Destination) (patterns : List String)
  | unregister (name : String)
  | setPatterns (name : String) (patterns : List String)
  deriving DecidableEq

/-- The router after an edit, whether it succeeds or not. -/
def edit (r : Router σ) : Edit → Router σ
  | .register d patterns => (r.register d patterns).2
  | .unregister name => (r.unregister name).2
  | .setPatterns name patterns => (r.setPatterns name patterns).2

/-- The router after edits that are made in order. -/
def edited (r : Router σ) (edits : List Edit) : Router σ := edits.foldl edit r

/-- A router without a destination whose memos know names by a key. -/
def keyed (key : String → Nat) (world : σ) : Router σ := { create world with memoKey := key }

/-- **The destinations have different names, and the memos of their patterns change no answer** on the names that
are asked about: the keys tell these apart, and what is remembered of them is right. -/
structure Kept (asked : Set String) (r : Router σ) : Prop where
  names : (r.bindings.map Binding.name).Nodup
  keys : Set.InjOn r.memoKey asked
  memos : r.matchers.Truthful r.memoKey asked

variable {asked : Set String}

theorem kept_keyed {key : String → Nat} (hkeys : Set.InjOn key asked) (world : σ) : (keyed key world).Kept asked where
  names := List.nodup_nil
  keys := hkeys
  memos := Matchers.truthful_empty

theorem name_mem_without {name : String} {bs : List Binding} {b : Binding} (h : b ∈ without name bs) :
    b ∈ bs ∧ b.name ≠ name := by
  obtain ⟨hmem, hne⟩ := List.mem_filter.mp h
  exact ⟨hmem, by simpa using hne⟩

theorem nodup_without {bs : List Binding} (h : (bs.map Binding.name).Nodup) (name : String) :
    ((without name bs).map Binding.name).Nodup :=
  h.sublist (List.filter_sublist.map Binding.name)

theorem map_setGroup {α : Type} {f : Binding → α} (hf : ∀ b g, f { b with patterns := g } = f b) (serial : Nat)
    (g : Group) (bs : List Binding) : (setGroup serial g bs).map f = bs.map f := by
  rw [setGroup, List.map_map]
  refine List.map_congr_left fun b _ => ?_
  show f (if _ then _ else _) = f b
  split
  · exact hf b g
  · rfl

/-- **Every edit keeps the invariant.** -/
theorem kept_edit {r : Router σ} (h : r.Kept asked) (e : Edit) : (r.edit e).Kept asked := by
  cases e with
  | register d patterns =>
    have hmemos := Matchers.truthful_ofPatterns h.memos patterns
    rw [edit, register]
    split
    · rename_i hp
      rw [hp] at hmemos
      exact ⟨h.names, h.keys, hmemos⟩
    · rename_i g ms hp
      rw [hp] at hmemos
      refine ⟨?_, h.keys, hmemos⟩
      rw [List.map_append]
      refine List.nodup_append.mpr ⟨nodup_without h.names d.name, List.nodup_singleton _, fun a ha b hb => ?_⟩
      obtain ⟨other, hother, rfl⟩ := List.mem_map.mp ha
      rw [List.mem_singleton.mp hb]
      exact (name_mem_without hother).2
  | unregister name => exact ⟨nodup_without h.names name, h.keys, h.memos⟩
  | setPatterns name patterns =>
    rw [edit, setPatterns]
    split
    · exact h
    · have hmemos := Matchers.truthful_ofPatterns h.memos patterns
      rw [Group.replace]
      cases hp : Group.ofPatterns r.matchers patterns with
      | mk result ms =>
        rw [hp] at hmemos
        cases result with
        | error e => exact ⟨h.names, h.keys, hmemos⟩
        | ok g => exact ⟨(map_setGroup (f := Binding.name) (fun _ _ => rfl) _ g r.bindings).symm ▸ h.names, h.keys, hmemos⟩

/-- **Edits keep the invariant.** -/
theorem kept_edited {r : Router σ} (h : r.Kept asked) (edits : List Edit) : (r.edited edits).Kept asked :=
  List.foldlRecOn (motive := Kept asked) edits edit h fun _ h e _ => kept_edit h e

/-- **Serial numbers tell the bindings apart**, and later ones will have others. -/
structure Numbered (r : Router σ) : Prop where
  distinct : (r.bindings.map Binding.serial).Nodup
  below : ∀ b ∈ r.bindings, b.serial < r.registrations

section Numbered

variable {r : Router σ}

theorem numbered_of_empty (h : r.bindings = []) : r.Numbered := by
  refine ⟨?_, ?_⟩ <;> simp [h]

theorem numbered_register (h : r.Numbered) (d : Destination) (patterns : List String) :
    (r.register d patterns).2.Numbered := by
  have hothers : ∀ b ∈ without d.name r.bindings, b.serial < r.registrations := fun b hb =>
    h.below b (name_mem_without hb).1
  unfold register
  split
  · exact ⟨h.distinct, h.below⟩
  · refine ⟨?_, fun b hb => ?_⟩
    · rw [List.map_append]
      refine List.nodup_append.mpr ⟨h.distinct.sublist (List.filter_sublist.map _), List.nodup_singleton _, ?_⟩
      intro n hn n' hn'
      obtain ⟨b, hb, rfl⟩ := List.mem_map.mp hn
      rw [List.mem_singleton.mp hn']
      exact Nat.ne_of_lt (hothers b hb)
    · rcases List.mem_append.mp hb with hb | hb
      · exact Nat.lt_succ_of_lt (hothers b hb)
      · rw [List.mem_singleton.mp hb]
        exact Nat.lt_succ_self _

theorem numbered_unregister (h : r.Numbered) (name : String) : (r.unregister name).2.Numbered where
  distinct := h.distinct.sublist (List.filter_sublist.map _)
  below := fun b hb => h.below b (name_mem_without hb).1

theorem numbered_setPatterns (h : r.Numbered) (name : String) (patterns : List String) :
    (r.setPatterns name patterns).2.Numbered := by
  unfold setPatterns
  split
  · exact h
  · split
    · exact ⟨h.distinct, h.below⟩
    · rename_i g ms _
      have hsame := map_setGroup (f := Binding.serial) (fun _ _ => rfl)
      refine ⟨(hsame _ _ r.bindings).symm ▸ h.distinct, fun b hb => ?_⟩
      have hserial := List.mem_map_of_mem (f := Binding.serial) hb
      rw [hsame] at hserial
      obtain ⟨b', hb', heq⟩ := List.mem_map.mp hserial
      exact heq ▸ h.below b' hb'

/-- **Every edit keeps the numbers apart.** -/
theorem numbered_edit (h : r.Numbered) (e : Edit) : (r.edit e).Numbered := by
  cases e with
  | register d patterns => exact numbered_register h d patterns
  | unregister name => exact numbered_unregister h name
  | setPatterns name patterns => exact numbered_setPatterns h name patterns

end Numbered

theorem edit_aside (r : Router σ) (e : Edit) : (r.edit e).world = r.world ∧ (r.edit e).counters = r.counters := by
  cases e with
  | register d patterns =>
    rw [edit, register]
    split <;> exact ⟨rfl, rfl⟩
  | unregister name => exact ⟨rfl, rfl⟩
  | setPatterns name patterns =>
    rw [edit, setPatterns]
    split
    · exact ⟨rfl, rfl⟩
    · split <;> exact ⟨rfl, rfl⟩

theorem world_edited (start : Router σ) (edits : List Edit) : (start.edited edits).world = start.world :=
  List.foldlRecOn (motive := fun r : Router σ => r.world = start.world) edits edit rfl
    fun r hr e _ => (edit_aside r e).1.trans hr

theorem counters_edited (start : Router σ) (edits : List Edit) : (start.edited edits).counters = start.counters :=
  List.foldlRecOn (motive := fun r : Router σ => r.counters = start.counters) edits edit rfl
    fun r hr e _ => (edit_aside r e).2.trans hr

/-- **The destination is served with the samples of a name**: it is bound once, and its patterns match. -/
structure Serves (r : Router σ) (d : Destination) (f : String) : Prop where
  once : r.bindings.countP (fun b => decide (b.destination = d)) = 1
  accepts : ∀ b ∈ r.bindings, b.destination = d → b.patterns.accepts r.matchers f = true

theorem serves_of_mem {r : Router σ} (h : r.Kept asked) {b : Binding} (hb : b ∈ r.bindings) {f : String}
    (hf : b.patterns.accepts r.matchers f = true) : r.Serves b.destination f := by
  have hsame : ∀ x ∈ r.bindings, x.destination = b.destination → x = b := fun x hx hd =>
    List.inj_on_of_nodup_map h.names hx hb (congrArg Destination.name hd)
  refine ⟨?_, fun x hx hd => by rwa [hsame x hx hd]⟩
  classical
  rw [← List.count_eq_one_of_mem h.names.of_map hb, List.count]
  refine List.countP_congr fun x hx => ?_
  rw [decide_eq_true_iff, beq_iff_eq]
  exact ⟨hsame x hx, fun hxb => by rw [hxb]⟩

end MetricRouter.Router
