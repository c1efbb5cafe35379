import MetricRouter.Proofs.Pattern.Search
import MetricRouter.Proofs.Pattern.Tokens

/-!
# Bounds in order

A repetition whose bounds are the wrong way round is refused when the text is read, so in every expression that comes
from a text the bounds are in order. The search relies on that.

* `Node.Ordered`, `Level.Ordered`, `Reader.Ordered` — the bounds in a tree, and in all that was read so far;
* `Reader.Ordered.step`, `Reader.Ordered.run` — one token, and a whole text;
* `ordered_parse` — the tree of a text; `ordered_ofNode` — the expression that it stands for.
-/

namespace MetricRouter.Pattern

/-- The bounds of every repetition are in order. -/
def Node.Ordered : Node → Prop
  | .repetition body least most _ => body.Ordered ∧ ∀ k, most = some k → least ≤ k
  | .group _ _ body => body.Ordered
  | .concat init last => init.Ordered ∧ last.Ordered
  | .alternation init last => init.Ordered ∧ last.Ordered
  | _ => True

/-- The bounds are in order in all that a level has read. -/
def Level.Ordered (l : Level) : Prop := (∀ n ∈ l.alternatives, n.Ordered) ∧ ∀ n ∈ l.parts, n.Ordered

/-- The bounds are in order in all that was read. -/
def Reader.Ordered (r : Reader) : Prop := r.level.Ordered ∧ ∀ f ∈ r.frames, f.outer.Ordered

section Ordered

variable {l l' : Level} {r r' : Reader} {n : Node} {ns : List Node} {c : Char} {cs rest : List Char} {fuel : Nat}

theorem ordered_ofParts (h : ∀ n ∈ ns, n.Ordered) : (Node.ofParts ns).Ordered := by
  induction ns with
  | nil => trivial
  | cons n rest ih =>
    cases rest with
    | nil => exact h n List.mem_cons_self
    | cons m more => exact ⟨ih fun k hk => h k (List.mem_cons_of_mem _ hk), h n List.mem_cons_self⟩

theorem ordered_ofAlternatives (h : ∀ n ∈ ns, n.Ordered) : (Node.ofAlternatives ns).Ordered := by
  induction ns with
  | nil => trivial
  | cons n rest ih =>
    cases rest with
    | nil => exact h n List.mem_cons_self
    | cons m more => exact ⟨ih fun k hk => h k (List.mem_cons_of_mem _ hk), h n List.mem_cons_self⟩

theorem Level.Ordered.node (h : l.Ordered) : l.node.Ordered :=
  ordered_ofAlternatives (List.forall_mem_cons.mpr ⟨ordered_ofParts h.2, h.1⟩)

theorem Level.Ordered.push (h : l.Ordered) (hn : n.Ordered) : (l.push n).Ordered :=
  ⟨h.1, List.forall_mem_cons.mpr ⟨hn, h.2⟩⟩

theorem Level.Ordered.repeatLast {least : Nat} {most : Option Nat} {greedy : Bool} (h : l.Ordered)
    (hbounds : ∀ k, most = some k → least ≤ k) (hl : l.repeatLast least most greedy = .ok l') : l'.Ordered := by
  unfold Level.repeatLast at hl
  split at hl
  · cases hl
  · cases hl
  · rename_i n parts _ hparts
    obtain rfl := Except.ok.inj hl
    have hall := hparts ▸ h.2
    exact ⟨h.1, List.forall_mem_cons.mpr ⟨⟨hall n List.mem_cons_self, hbounds⟩,
      fun m hm => hall m (List.mem_cons_of_mem _ hm)⟩⟩

theorem Reader.Ordered.push (h : r.Ordered) (hn : n.Ordered) : (r.push n).Ordered := ⟨h.1.push hn, h.2⟩

theorem Reader.Ordered.repeatLast {least : Nat} {most : Option Nat} (h : r.Ordered)
    (hbounds : ∀ k, most = some k → least ≤ k) (hr : r.repeatLast least most cs = .ok (r', rest)) : r'.Ordered := by
  unfold Reader.repeatLast at hr
  obtain ⟨l, hl, hp⟩ := exists_of_map_eq_ok hr
  exact (Prod.mk.inj hp).1 ▸ ⟨h.1.repeatLast hbounds hl, h.2⟩

theorem Reader.Ordered.openGroup (h : r.Ordered) (hr : r.openGroup cs = .ok (r', rest)) : r'.Ordered := by
  unfold Reader.openGroup at hr
  split at hr
  · cases hr
  · rw [Except.ok.injEq, Prod.mk.injEq] at hr
    exact hr.1 ▸ ⟨h.1.push trivial, h.2⟩
  · split at hr
    · cases hr
    · rw [Except.ok.injEq, Prod.mk.injEq] at hr
      have hempty : Level.Ordered ⟨[], []⟩ := ⟨by simp, by simp⟩
      exact hr.1 ▸ ⟨hempty, List.forall_mem_cons.mpr ⟨h.1, h.2⟩⟩

theorem Reader.Ordered.closeGroup (h : r.Ordered) (hr : r.closeGroup = .ok r') : r'.Ordered := by
  unfold Reader.closeGroup at hr
  split at hr
  · cases hr
  · rename_i f frames hframes
    obtain ⟨hf, hrest⟩ := List.forall_mem_cons.mp (hframes ▸ h.2)
    exact Except.ok.inj hr ▸ ⟨hf.push h.1.node, hrest⟩

theorem ordered_of_readSet {blanks : Bool} (h : readSet blanks cs = .ok (n, rest)) : n.Ordered := by
  unfold readSet at h
  split at h
  · cases h
  · split at h
    · cases h
    · rw [Except.ok.injEq, Prod.mk.injEq] at h
      exact h.1 ▸ trivial

theorem ordered_atom (a : Atom) : a.node.Ordered := by cases a <;> trivial

/-- **One token keeps the bounds in order.** -/
theorem Reader.Ordered.step (h : r.Ordered) (hr : r.step c cs = .ok (r', rest)) : r'.Ordered := by
  unfold Reader.step at hr
  split at hr
  case h_1 => exact h.openGroup hr
  case h_2 =>
    obtain ⟨s, hclose, hs⟩ := exists_of_map_eq_ok hr
    exact (Prod.mk.inj hs).1 ▸ h.closeGroup hclose
  case h_3 =>
    rw [Except.ok.injEq, Prod.mk.injEq] at hr
    exact hr.1 ▸ ⟨⟨List.forall_mem_cons.mpr ⟨ordered_ofParts h.1.2, h.1.1⟩, by simp⟩, h.2⟩
  case h_4 =>
    obtain ⟨p, hset, hp⟩ := exists_of_map_eq_ok hr
    exact (Prod.mk.inj hp).1 ▸ h.push (ordered_of_readSet hset)
  case h_5 | h_6 | h_7 => exact h.repeatLast (by simp) hr
  case h_8 =>
    split at hr
    · cases hr
    · cases hr
    · split at hr
      · cases hr
      · exact h.repeatLast (readCount_ordered ‹_›) hr
  case h_9 =>
    obtain ⟨p, -, hp⟩ := exists_of_map_eq_ok hr
    exact (Prod.mk.inj hp).1 ▸ h.push (ordered_atom p.1)
  all_goals
    rw [Except.ok.injEq, Prod.mk.injEq] at hr
    exact hr.1 ▸ h.push trivial

theorem Reader.Ordered.run (h : r.Ordered) (hr : Reader.run fuel r cs = .ok r') : r'.Ordered := by
  induction fuel generalizing r cs with
  | zero => exact Except.ok.inj hr ▸ h
  | succ fuel ih =>
    rw [Reader.run] at hr
    split at hr
    · exact Except.ok.inj hr ▸ h
    · split at hr
      · cases hr
      · exact ih (h.step ‹_›) hr

theorem ordered_parse {text : String} (h : Node.parse text = .ok n) : n.Ordered := by
  unfold Node.parse at h
  split at h
  · cases h
  · rename_i r hrun
    have hstart : Reader.start.Ordered := ⟨⟨by simp [Reader.start], by simp [Reader.start]⟩, by simp [Reader.start]⟩
    have hr := hstart.run hrun
    unfold Reader.finish at h
    split at h
    · split at h
      · exact Except.ok.inj h ▸ hr.1.node
      · cases h
    · cases h

/-- **What an expression becomes under flags keeps the bounds in order.** -/
theorem ordered_ofNode {f f' : Flags} {x : Regex} (h : Regex.ofNode f n = .ok (x, f')) (hn : n.Ordered) :
    x.Ordered := by
  induction n generalizing f f' x with
  | empty | setFlags | assertion =>
    rw [Regex.ofNode, Except.ok.injEq, Prod.mk.injEq] at h
    exact h.1 ▸ trivial
  | literal l =>
    obtain ⟨y, hy, hp⟩ := exists_of_map_eq_ok h
    simp only [Flags.literal] at hy
    split at hy
    · cases hy
    · exact (Prod.mk.inj hp).1 ▸ Except.ok.inj hy ▸ trivial
  | dot =>
    obtain ⟨y, hy, hp⟩ := exists_of_map_eq_ok h
    obtain rfl := (Prod.mk.inj hp).1
    unfold Flags.dot at hy
    split at hy
    · cases hy
    · split at hy
      · exact Except.ok.inj hy ▸ trivial
      · split at hy <;> exact Except.ok.inj hy ▸ trivial
  | unicodeClass query negated | perlClass kind negated =>
    obtain ⟨s, -, hp⟩ := exists_of_map_eq_ok h
    exact (Prod.mk.inj hp).1 ▸ trivial
  | bracketed negated set =>
    rw [Regex.ofNode] at h
    split at h
    · cases h
    · obtain ⟨s, -, hp⟩ := exists_of_map_eq_ok h
      exact (Prod.mk.inj hp).1 ▸ trivial
  | repetition body least most greedy ih =>
    rw [Regex.ofNode] at h
    split at h
    · cases h
    · rw [Except.ok.injEq, Prod.mk.injEq] at h
      exact h.1 ▸ ⟨ih ‹_› hn.1, hn.2⟩
  | group change captures body ih =>
    rw [Regex.ofNode] at h
    split at h
    · cases h
    · rename_i r _ hbody
      rw [Except.ok.injEq, Prod.mk.injEq] at h
      obtain ⟨rfl, -⟩ := h
      exact (ih hbody hn : r.Ordered)
  | concat init last ihi ihl | alternation init last ihi ihl =>
    rw [Regex.ofNode] at h
    split at h
    · cases h
    · split at h
      · cases h
      · rw [Except.ok.injEq, Prod.mk.injEq] at h
        exact h.1 ▸ ⟨ihi ‹_› hn.1, ihl ‹_› hn.2⟩

end Ordered

end MetricRouter.Pattern
