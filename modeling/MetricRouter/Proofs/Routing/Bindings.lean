import MetricRouter.Proofs.Pattern.Membership
import MetricRouter.Proofs.Routing.Registration

/-!
# The list of destinations

What registering and removing destinations and setting their patterns make of the list. Names tell the destinations
apart, whatever was done before, and what fails leaves the list as it was.

* `mem_of_binding?`, `binding?_eq_none_iff`, `exists_binding?` — a destination is found by its name;
* `register_cases`, `setPatterns_cases` — a router takes patterns that compile;
* `setGroup_eq` — to set the patterns of a binding is to set those of a name;
* `Router.Bound`, `bound_edit`, `bound_edited` — the invariant: the matchers are of patterns that compile, and serial
  numbers tell bindings apart;
* `bindings_edited` — the main statement.
-/

namespace MetricRouter.Router

open Pattern (Compiles Group Matchers)

variable {σ : Type} {r : Router σ} {b : Binding} {name : String}

theorem mem_of_binding? (h : r.binding? name = some b) : b ∈ r.bindings ∧ b.name = name :=
  ⟨List.mem_of_find?_eq_some h, beq_iff_eq.mp (List.find?_some (p := fun b : Binding => b.name == name) h)⟩

theorem binding?_eq_none_iff : r.binding? name = none ↔ name ∉ r.destinations := by
  rw [binding?, List.find?_eq_none, destinations, List.mem_map, not_exists]
  exact forall_congr' fun b => by rw [not_and, beq_iff_eq]

theorem exists_binding? (h : name ∈ r.destinations) : ∃ b, r.binding? name = some b :=
  Option.ne_none_iff_exists'.mp fun hnone => binding?_eq_none_iff.mp hnone h

/-- **A router registers a destination whose patterns compile**, and else leaves its destinations alone. -/
theorem register_cases (h : r.matchers.Compiled) (x : Destination) (patterns : List String) :
    (patterns.all Compiles = true ∧ ∃ g ms, g.members = patterns.eraseDups ∧ ms.Compiled ∧
      r.register x patterns =
        (.ok (), { r with matchers := ms, bindings := without x.name r.bindings ++ [⟨r.registrations, x, g⟩],
                          registrations := r.registrations + 1 })) ∨
    (patterns.all Compiles = false ∧ ∃ ms, ms.Compiled ∧
      r.register x patterns = (.error .invalidPattern, { r with matchers := ms })) := by
  obtain ⟨hcompiled, hisOk, hmembers⟩ := Group.collected_ofPatterns h patterns
  rw [register]
  generalize Group.ofPatterns r.matchers patterns = result at *
  obtain ⟨_ | g, ms⟩ := result
  · exact Or.inr ⟨hisOk.symm, ms, hcompiled, rfl⟩
  · exact Or.inl ⟨hisOk.symm, g, ms, hmembers g rfl, hcompiled, rfl⟩

/-- **A router sets patterns that compile**, and else leaves them alone. -/
theorem setPatterns_cases (h : r.matchers.Compiled) (hb : r.binding? name = some b) (patterns : List String) :
    (patterns.all Compiles = true ∧ ∃ g ms, g.members = patterns.eraseDups ∧ ms.Compiled ∧
      r.setPatterns name patterns =
        (.ok (), { r with matchers := ms, bindings := setGroup b.serial g r.bindings })) ∨
    (patterns.all Compiles = false ∧ ∃ ms, ms.Compiled ∧
      r.setPatterns name patterns = (.error .invalidPattern, { r with matchers := ms })) := by
  obtain ⟨hcompiled, hisOk, hmembers⟩ := Group.collected_ofPatterns h patterns
  rw [setPatterns, hb]
  simp only [Group.replace]
  generalize Group.ofPatterns r.matchers patterns = result at *
  obtain ⟨_ | g, ms⟩ := result
  · exact Or.inr ⟨hisOk.symm, ms, hcompiled, rfl⟩
  · exact Or.inl ⟨hisOk.symm, g, ms, hmembers g rfl, hcompiled, rfl⟩

/-- **To set the patterns of a binding is to set those of its name**, as names and serial numbers both tell bindings
apart. -/
theorem setGroup_eq (hr : r.Numbered) (hnames : r.destinations.Nodup) (hb : b ∈ r.bindings) (g : Group) :
    setGroup b.serial g r.bindings =
      r.bindings.map (fun x => if x.name = b.name then { x with patterns := g } else x) := by
  refine List.map_congr_left fun x hx => ?_
  have hsame : x.serial = b.serial ↔ x.name = b.name :=
    ⟨fun e => by rw [List.inj_on_of_nodup_map hr.distinct hx hb e],
      fun e => by rw [List.inj_on_of_nodup_map hnames hx hb e]⟩
  simp only [hsame]

/-! ## Edits -/

/-- **The matchers are of patterns that compile, and serial numbers tell bindings apart.** -/
structure Bound (r : Router σ) : Prop where
  compiled : r.matchers.Compiled
  numbered : r.Numbered

theorem bound_register (h : r.Bound) (d : Destination) (patterns : List String) : (r.register d patterns).2.Bound := by
  refine ⟨?_, numbered_register h.numbered d patterns⟩
  rcases register_cases h.compiled d patterns with ⟨-, g, ms, -, hms, hregister⟩ | ⟨-, ms, hms, hregister⟩ <;>
  · rw [hregister]
    exact hms

theorem bound_unregister (h : r.Bound) (name : String) : (r.unregister name).2.Bound :=
  ⟨h.compiled, numbered_unregister h.numbered name⟩

theorem bound_setPatterns (h : r.Bound) (name : String) (patterns : List String) :
    (r.setPatterns name patterns).2.Bound := by
  refine ⟨?_, numbered_setPatterns h.numbered name patterns⟩
  cases hfound : r.binding? name with
  | none =>
    rw [setPatterns, hfound]
    exact h.compiled
  | some b =>
    rcases setPatterns_cases h.compiled hfound patterns with ⟨-, g, ms, -, hms, hset⟩ | ⟨-, ms, hms, hset⟩ <;>
    · rw [hset]
      exact hms

theorem Bound.withWorld (h : r.Bound) (w : σ) : Bound { r with world := w } :=
  ⟨h.compiled, h.numbered.distinct, h.numbered.below⟩

theorem bound_edit (h : r.Bound) (e : Edit) : (r.edit e).Bound := by
  cases e with
  | register d patterns => exact bound_register h d patterns
  | unregister name => exact bound_unregister h name
  | setPatterns name patterns => exact bound_setPatterns h name patterns

theorem bound_edited (key : String → Nat) (world : σ) (edits : List Edit) : ((keyed key world).edited edits).Bound :=
  List.foldlRecOn (motive := Bound) edits edit ⟨Matchers.compiled_empty, numbered_of_empty rfl⟩
    fun _ h e _ => bound_edit h e

theorem bindings_register (h : r.matchers.Compiled) (d : Destination) (patterns : List String) :
    (patterns.all Compiles = true → (r.register d patterns).1 = .ok () ∧ ∃ g, g.members = patterns.eraseDups ∧
      (r.register d patterns).2.bindings = r.bindings.filter (fun b => b.name != d.name) ++ [⟨r.registrations, d, g⟩]) ∧
    (patterns.all Compiles = false → (r.register d patterns).1 = .error .invalidPattern ∧
      (r.register d patterns).2.bindings = r.bindings) := by
  rcases register_cases h d patterns with ⟨hall, g, ms, hmembers, -, hregister⟩ | ⟨hall, ms, -, hregister⟩
  · rw [hregister]
    exact ⟨fun _ => ⟨rfl, g, hmembers, rfl⟩, fun hinvalid => absurd hall (ne_true_of_eq_false hinvalid)⟩
  · rw [hregister]
    exact ⟨fun hvalid => absurd hvalid (ne_true_of_eq_false hall), fun _ => ⟨rfl, rfl⟩⟩

theorem unregister_fst (r : Router σ) (name : String) : (r.unregister name).1 = decide (name ∈ r.destinations) := by
  rw [Bool.eq_iff_iff, decide_eq_true_iff, unregister, Option.isSome_iff_ne_none, Ne, binding?_eq_none_iff, not_not]

/-- **The list of destinations.** After edits in any order, valid or not, no name comes twice. A destination whose
patterns compile is registered at the end, with each of them once, and takes the place of the one of its name; removing
a name removes the destination of that name, and tells whether there was one; and patterns that compile become those of
the destination of a name, which stays the one it is, at its place. An unknown name is reported as such, whatever the
patterns, and what fails leaves all destinations with all their patterns as they were. -/
theorem bindings_edited (key : String → Nat) (world : σ) (edits : List Edit) :
    let r := (keyed key world).edited edits
    r.destinations.Nodup ∧
    (∀ d patterns,
      (patterns.all Compiles = true → (r.register d patterns).1 = .ok () ∧ ∃ g, g.members = patterns.eraseDups ∧
        (r.register d patterns).2.bindings = r.bindings.filter (fun b => b.name != d.name) ++ [⟨r.registrations, d, g⟩]) ∧
      (patterns.all Compiles = false → (r.register d patterns).1 = .error .invalidPattern ∧
        (r.register d patterns).2.bindings = r.bindings)) ∧
    (∀ name, (r.unregister name).1 = decide (name ∈ r.destinations) ∧
      (r.unregister name).2.bindings = r.bindings.filter (fun b => b.name != name)) ∧
    ∀ name patterns,
      (name ∉ r.destinations → (r.setPatterns name patterns).1 = .error (.destinationNotFound name) ∧
        (r.setPatterns name patterns).2.bindings = r.bindings) ∧
      (name ∈ r.destinations → patterns.all Compiles = false →
        (r.setPatterns name patterns).1 = .error .invalidPattern ∧
        (r.setPatterns name patterns).2.bindings = r.bindings) ∧
      (name ∈ r.destinations → patterns.all Compiles = true → (r.setPatterns name patterns).1 = .ok () ∧
        ∃ g, g.members = patterns.eraseDups ∧ (r.setPatterns name patterns).2.bindings =
          r.bindings.map (fun b => if b.name = name then { b with patterns := g } else b)) := by
  intro r
  have hbound : r.Bound := bound_edited key world edits
  have hnames : r.destinations.Nodup := (kept_edited (kept_keyed (Set.injOn_empty key) world) edits).names
  refine ⟨hnames, bindings_register hbound.compiled, fun name => ⟨unregister_fst r name, rfl⟩, fun name patterns =>
    ⟨fun hunknown => ?_, fun hknown hinvalid => ?_, fun hknown hvalid => ?_⟩⟩
  · rw [setPatterns, binding?_eq_none_iff.mpr hunknown]
    exact ⟨rfl, rfl⟩
  · obtain ⟨b, hb⟩ := exists_binding? hknown
    rcases setPatterns_cases hbound.compiled hb patterns with ⟨hall, -⟩ | ⟨-, ms, -, hset⟩
    · exact absurd hall (ne_true_of_eq_false hinvalid)
    · rw [hset]
      exact ⟨rfl, rfl⟩
  · obtain ⟨b, hb⟩ := exists_binding? hknown
    obtain ⟨hmem, rfl⟩ := mem_of_binding? hb
    rcases setPatterns_cases hbound.compiled hb patterns with ⟨-, g, ms, hmembers, -, hset⟩ | ⟨hall, -⟩
    · rw [hset]
      exact ⟨rfl, g, hmembers, setGroup_eq hbound.numbered hnames hmem g⟩
    · exact absurd hvalid (ne_true_of_eq_false hall)

/-- A destination is replaced by another one of its name, and goes to the end. The other destination gets patterns and
stays first; a list with an invalid pattern changes nothing. -/
theorem bindings_edited_of_replacement :
    let edits := [.register ⟨0, "log"⟩ ["cpu"], .register ⟨1, "inbox"⟩ [], .register ⟨2, "log"⟩ ["io"]]
    let r := (keyed String.length ()).edited edits
    r.destinations = ["inbox", "log"] ∧
      (∃ g, g.members = ["mem", "net"] ∧ (r.setPatterns "inbox" ["mem", "net", "mem"]).2.bindings =
        r.bindings.map (fun b => if b.name = "inbox" then { b with patterns := g } else b)) ∧
      (r.setPatterns "inbox" ["mem", "("]).2.bindings = r.bindings := by
  -- the router stays spelt out: Lean would run the edits to see that a name for it is the same router
  intro edits
  have hset := (bindings_edited String.length () edits).2.2.2
  have hknown : "inbox" ∈ ((keyed String.length ()).edited edits).destinations := by decide +kernel
  exact ⟨by decide +kernel, ((hset "inbox" ["mem", "net", "mem"]).2.2 hknown (by decide +kernel)).2,
    ((hset "inbox" ["mem", "("]).2.1 hknown (by decide +kernel)).2⟩

end MetricRouter.Router
