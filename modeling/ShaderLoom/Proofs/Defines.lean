import ShaderLoom.Defines
import ShaderLoom.Proofs.Key.Plain
import ShaderLoom.Proofs.Outcome

/-!
# What the code of defines depends on

The line of a define shows the number that its value is, and not the width of the number. So merged
defines have the same code as the defines without widths (`code_withoutWidths`).
-/

namespace ShaderLoom

/-- The entries without the widths of numbers. -/
def Entries.withoutWidths (es : Entries) : Entries := es.map fun e => (e.1, e.2.withoutWidth)

lemma Entries.withoutWidths_put (es : Entries) (k v : Value) :
    (es.put k v).withoutWidths = es.withoutWidths.put k v.withoutWidth := by
  induction es with
  | nil => rfl
  | cons e es ih =>
    by_cases he : e.1.sameKey k = true
    · simp [put, withoutWidths, he]
    · simpa [put, withoutWidths, he] using ih

lemma Entries.withoutWidths_putAll (es new : Entries) :
    (es.putAll new).withoutWidths = es.withoutWidths.putAll new.withoutWidths := by
  induction new generalizing es with
  | nil => rfl
  | cons e new ih =>
    rw [putAll_cons, ih, withoutWidths_put]
    rfl

namespace Defines

lemma isWritten_withoutWidth (v : Value) : isWritten v.withoutWidth = isWritten v := by
  cases v with
  | scalar s =>
    cases s with
    | truth b => cases b <;> rfl
    | _ => rfl
  | _ => rfl

lemma valueText_withoutWidth (v : Value) : valueText v.withoutWidth = valueText v := by
  cases v with
  | scalar s => cases s <;> rfl
  | _ => rfl

lemma line?_withoutWidth (key v : Value) : line? key v.withoutWidth = line? key v := by
  unfold line?
  rw [isWritten_withoutWidth, valueText_withoutWidth]

/-- The code of defines does not show the widths of numbers. -/
theorem code_withoutWidths (es : Entries) : code es.withoutWidths = code es := by
  have hlines : (es.withoutWidths.mapM fun e => line? e.1 e.2) =
      es.mapM fun e => line? e.1 e.2 := by
    unfold Entries.withoutWidths
    rw [List.mapM_map]
    congr 1
    funext e
    exact line?_withoutWidth e.1 e.2
  unfold code
  rw [hlines]
  simp [Entries.withoutWidths]

/-- The defines of an application are put over those of the modules. -/
lemma merge_of_optionalEntries {modules : List ShaderModule} {application : Value} {es : Entries}
    (h : ShaderModule.optionalEntries application = .ok es) :
    merge modules application = .ok (Entries.putAll (ofModules modules) es) := by
  unfold ShaderModule.optionalEntries at h
  obtain ⟨b, hb, h⟩ := bind_eq_ok.1 h
  unfold merge Value.orElse
  rw [hb]
  cases b with
  | false =>
    obtain rfl := Except.ok.inj h
    rfl
  | true =>
    cases application with
    | map kind ds =>
      obtain rfl := Except.ok.inj h
      rfl
    | _ => cases h

end Defines

end ShaderLoom
