import LexicalScan.Text.Basic

namespace LexicalScan

open Text

structure Marker where
  text : Text
  ne_nil : text ≠ []
  deriving DecidableEq

namespace Marker

def ofText? (t : Text) : Option Marker :=
  if h : t = [] then none else some ⟨t, h⟩

theorem ofText?_eq_some_iff {t : Text} {m : Marker} : ofText? t = some m ↔ m.text = t := by
  have := m.ne_nil
  cases m
  unfold ofText?
  split <;> simp_all [eq_comm]

@[simp]
theorem ofText?_text (m : Marker) : ofText? m.text = some m :=
  ofText?_eq_some_iff.mpr rfl

end Marker

structure Delimiters where
  opening : Marker
  closing : Marker
  deriving DecidableEq

namespace Delimiters

def ofTexts? (opening closing : Text) : Option Delimiters := do
  return { opening := ← Marker.ofText? opening, closing := ← Marker.ofText? closing }

@[simp]
theorem ofTexts?_text (d : Delimiters) : ofTexts? d.opening.text d.closing.text = some d := by
  simp [ofTexts?]

def encloses (d : Delimiters) (t : Text) : Bool :=
  size d.opening.text + size d.closing.text ≤ size t
    && d.opening.text.isPrefixOf t
    && d.closing.text.isSuffixOf t

end Delimiters
end LexicalScan
