import Mathlib
import MetricRouter.Metric.Name

/-!
# Sanitizing twice

Sanitizing an identifier that is sanitized already leaves it as it is, so a name may be rendered from raw
identifiers or from sanitized ones.

* `sanitize_sanitize`, `sanitizeNamespace_sanitizeNamespace` — sanitizing is idempotent;
* `render_sanitizeNamespace` — the text form does not depend on whether the namespace was sanitized.
-/

namespace MetricRouter.Fqn

open Text (isBlank trimBlank)

/-- A character as it stands in a sanitized identifier. -/
def fit (c : Char) : Char := if isDelimiter c then '_' else c

theorem isBlank_fit {c : Char} (h : isBlank c = false) : isBlank (fit c) = false := by
  unfold fit
  split
  · decide
  · exact h

theorem fit_fit (c : Char) : fit (fit c) = fit c := by
  unfold fit
  split
  · decide
  · rfl

theorem trimBlank_map_fit (cs : List Char) :
    trimBlank ((trimBlank cs).map fit) = (trimBlank cs).map fit := by
  refine Text.trimBlank_of_ends (fun c hc => ?_) (fun c hc => ?_)
  · rw [List.head?_map] at hc
    obtain ⟨d, hd, rfl⟩ := Option.map_eq_some_iff.mp hc
    exact isBlank_fit (Text.head_trimBlank d hd)
  · rw [List.getLast?_map] at hc
    obtain ⟨d, hd, rfl⟩ := Option.map_eq_some_iff.mp hc
    exact isBlank_fit (Text.getLast_trimBlank d hd)

theorem sanitize_of_blank {s : String} (h : isBlankText s = true) : sanitize s = placeholder := by
  unfold sanitize
  exact if_pos h

theorem toList_sanitize {s : String} (h : isBlankText s = false) :
    (sanitize s).toList = (trimBlank s.toList).map fit := by
  have hs : sanitize s = String.ofList ((trimBlank s.toList).map fit) := by
    unfold sanitize
    exact if_neg (by simpa [isBlankText] using h)
  rw [hs, String.toList_ofList]

theorem isBlankText_sanitize (s : String) : isBlankText (sanitize s) = false := by
  cases h : isBlankText s with
  | true =>
    rw [sanitize_of_blank h]
    decide
  | false =>
    have hne : trimBlank s.toList ≠ [] := by
      intro e
      simp [isBlankText, e] at h
    unfold isBlankText
    rw [toList_sanitize h, trimBlank_map_fit]
    simpa using hne

theorem sanitize_sanitize (s : String) : sanitize (sanitize s) = sanitize s := by
  cases h : isBlankText s with
  | true =>
    rw [sanitize_of_blank h]
    decide
  | false =>
    apply String.toList_inj.mp
    rw [toList_sanitize (isBlankText_sanitize s), toList_sanitize h, trimBlank_map_fit, List.map_map]
    exact List.map_congr_left (fun c _ => fit_fit c)

theorem sanitizeNamespace_sanitizeNamespace (segments : List String) :
    sanitizeNamespace (sanitizeNamespace segments) = sanitizeNamespace segments := by
  have hkeep : ∀ s ∈ sanitizeNamespace segments, (!isBlankText s) = true := by
    intro s hs
    obtain ⟨r, -, rfl⟩ := List.mem_map.mp hs
    simp [isBlankText_sanitize]
  have hfix : ∀ s ∈ sanitizeNamespace segments, sanitize s = s := by
    intro s hs
    obtain ⟨r, -, rfl⟩ := List.mem_map.mp hs
    exact sanitize_sanitize r
  show ((sanitizeNamespace segments).filter (fun s => !isBlankText s)).map sanitize = _
  rw [List.filter_eq_self.mpr hkeep]
  exact (List.map_congr_left hfix).trans (List.map_id _)

theorem render_sanitizeNamespace (host agent name : String) (segments : List String) :
    render host agent name (sanitizeNamespace segments) = render host agent name segments := by
  unfold render ofRaw
  rw [sanitizeNamespace_sanitizeNamespace]

end MetricRouter.Fqn
