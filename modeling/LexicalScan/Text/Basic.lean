namespace LexicalScan

abbrev Text := List Char

namespace Text

variable {needle s t : Text} {c : Char} {n : Nat}

def size (t : Text) : Nat :=
  t.foldr (·.utf8Size + ·) 0

@[simp]
theorem size_nil : size [] = 0 :=
  rfl

@[simp]
theorem size_cons : size (c :: t) = c.utf8Size + size t :=
  rfl

@[simp]
theorem size_append : size (s ++ t) = size s + size t := by
  induction s
  case nil => simp
  case cons c s ih => rw [List.cons_append, size_cons, size_cons, ih, Nat.add_assoc]

theorem size_eq_zero_iff : size t = 0 ↔ t = [] := by
  cases t <;> simp [Nat.ne_of_gt (Char.utf8Size_pos _)]

-- Whether `t` begins with `s`. The empty text begins nothing, so that an absent marker never
-- matches.
def startsWith (t s : Text) : Bool :=
  !s.isEmpty && s.isPrefixOf t

theorem startsWith_iff : startsWith t s ↔ s ≠ [] ∧ s <+: t := by
  simp [startsWith]

def find? (needle t : Text) : Option Nat :=
  go t 0
where
  go : Text → Nat → Option Nat
    | [], i => if needle.isEmpty then some i else none
    | c :: t, i => if needle.isPrefixOf (c :: t) then some i else go t (i + 1)

theorem find?_go_eq (t : Text) (i : Nat) : find?.go needle t i = (find? needle t).map (i + ·) := by
  induction t generalizing i
  case nil => simp [find?, find?.go]
  case cons c t ih =>
    simp only [find?, find?.go, ih (i + 1), ih (0 + 1)]
    split
    case isTrue => simp
    case isFalse => simp [Function.comp_def, Nat.add_assoc]

theorem find?_nil : find? needle [] = if needle = [] then some 0 else none := by
  simp [find?, find?.go]

theorem find?_cons :
    find? needle (c :: t) =
      if needle <+: c :: t then some 0 else (find? needle t).map (· + 1) := by
  rw [find?, find?.go, find?_go_eq]
  simp [Nat.add_comm]

theorem find?_eq_some_isPrefix {i : Nat} (h : find? needle t = some i) : needle <+: t.drop i := by
  induction t generalizing i
  case nil => simp_all [find?_nil]
  case cons c t ih =>
    rw [find?_cons] at h
    split at h
    case isTrue hp => simpa [← Option.some.inj h] using hp
    case isFalse =>
      have ⟨j, hj, he⟩ := Option.map_eq_some_iff.mp h
      exact he ▸ ih hj

-- The leading characters of `t` that fill `n` bytes, a character that `n` cuts included.
def takeSize (n : Nat) (t : Text) : Text :=
  go n t []
where
  go : Nat → Text → Text → Text
    | 0, _, taken => taken.reverse
    | _ + 1, [], taken => taken.reverse
    | n + 1, c :: t, taken => go (n + 1 - c.utf8Size) t (c :: taken)

theorem takeSize_go_size (s t taken : Text) :
    takeSize.go (size s) (s ++ t) taken = taken.reverse ++ s := by
  induction s generalizing taken
  case nil => simp [takeSize.go]
  case cons c s ih =>
    have ⟨k, hk⟩ : ∃ k, size (c :: s) = k + 1 :=
      Nat.exists_eq_add_one.mpr (by simp; have := c.utf8Size_pos; omega)
    have hs : k + 1 - c.utf8Size = size s := by simp at hk; omega
    simp [hk, takeSize.go, hs, ih]

@[simp]
theorem takeSize_size (s t : Text) : takeSize (size s) (s ++ t) = s := by
  simp [takeSize, takeSize_go_size]

def decimal (n : Nat) : Text :=
  Nat.toDigits 10 n

def hexadecimal (n : Nat) : Text :=
  Nat.toDigits 16 n

def isNumber (t : Text) : Bool :=
  let whole := t.takeWhile (· != '.')
  let fraction := (t.dropWhile (· != '.')).drop 1
  !whole.isEmpty && whole.all Char.isDigit && fraction.all Char.isDigit

end Text
end LexicalScan
