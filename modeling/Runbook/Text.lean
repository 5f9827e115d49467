namespace Runbook.Text

/-- The characters with the Unicode property White_Space. -/
def isSpace (c : Char) : Bool :=
  let n := c.toNat
  (9 ≤ n && n ≤ 13) || n == 0x20 || n == 0x85 || n == 0xA0 || n == 0x1680 ||
    (0x2000 ≤ n && n ≤ 0x200A) || n == 0x2028 || n == 0x2029 || n == 0x202F || n == 0x205F ||
    n == 0x3000

def trimStartChars (s : List Char) : List Char := s.dropWhile isSpace

def trimEndChars (s : List Char) : List Char := (s.reverse.dropWhile isSpace).reverse

def trimChars (s : List Char) : List Char := trimEndChars (trimStartChars s)

def trim (s : String) : String := .ofList (trimChars s.toList)

def isBlank (s : String) : Bool := s.toList.all isSpace

/-- The pieces of a text between the occurrences of a separator, the empty ones included. -/
def pieces (separator : Char) : List Char → List (List Char)
  | [] => [[]]
  | c :: rest =>
    if c = separator then [] :: pieces separator rest
    else match pieces separator rest with
      | [] => [[c]]
      | piece :: others => (c :: piece) :: others

/-- What stands before the first occurrence of a character, and what follows it. -/
def cut? (c : Char) (s : List Char) : Option (List Char × List Char) :=
  match s.dropWhile (· != c) with
  | [] => none
  | _ :: after => some (s.takeWhile (· != c), after)

def isLetter (c : Char) : Bool := ('a' ≤ c && c ≤ 'z') || ('A' ≤ c && c ≤ 'Z')

def isDigit (c : Char) : Bool := '0' ≤ c && c ≤ '9'

/-- Letters, digits and the underscore, within ASCII. -/
def isWord (c : Char) : Bool := isLetter c || isDigit c || c == '_'

/-- Letters A to Z become small; every other character stays. -/
def lower (s : String) : String := .ofList (s.toList.map Char.toLower)

/-- Equality up to the case of the letters A to Z. -/
def sameLetters (s t : String) : Bool := lower s == lower t

def startsWith (s start : String) : Bool := start.toList.isPrefixOf s.toList

def endsWith (s tail : String) : Bool := tail.toList.isSuffixOf s.toList

def occursIn (part : List Char) : List Char → Bool
  | [] => part.isEmpty
  | c :: rest => part.isPrefixOf (c :: rest) || occursIn part rest

def contains (s part : String) : Bool := occursIn part.toList s.toList

def decimal (n : Nat) : String := .ofList (Nat.toDigits 10 n)

def signedDecimal (n : Int) : String := if n < 0 then "-" ++ decimal n.natAbs else decimal n.natAbs

theorem pieces_ne_nil (separator : Char) (s : List Char) : pieces separator s ≠ [] := by
  cases s with
  | nil => simp [pieces]
  | cons c rest => unfold pieces; split <;> (try split) <;> simp

theorem eq_append_of_cut? {c : Char} {s before after : List Char}
    (h : cut? c s = some (before, after)) : s = before ++ c :: after ∧ c ∉ before := by
  have split := List.takeWhile_append_dropWhile (p := (· != c)) (l := s)
  unfold cut? at h
  split at h
  next => cases h
  next d rest hd =>
    cases h
    have hc : (d != c) = false := by
      have := List.head?_dropWhile_not (p := (· != c)) s
      simp_all
    rw [hd, show d = c by simpa using hc] at split
    refine ⟨split.symm, fun hm => ?_⟩
    simpa using List.all_eq_true.mp (List.all_takeWhile (p := (· != c)) (l := s)) c hm

theorem cut?_length {c : Char} {s before after : List Char}
    (h : cut? c s = some (before, after)) : after.length < s.length := by
  rw [(eq_append_of_cut? h).1, List.length_append, List.length_cons]
  omega

theorem cut?_eq_some_of_notMem {c : Char} {before after : List Char} (h : c ∉ before) :
    cut? c (before ++ c :: after) = some (before, after) := by
  have other : ∀ d ∈ before, (d != c) = true := fun d hd =>
    bne_iff_ne.mpr fun same => h (same ▸ hd)
  rw [cut?, List.dropWhile_append_of_pos other, List.takeWhile_append_of_pos other]
  simp

theorem cut?_eq_none_of_notMem {c : Char} {s : List Char} (h : c ∉ s) : cut? c s = none := by
  cases found : cut? c s with
  | none => rfl
  | some parts =>
    have whole := (eq_append_of_cut? found).1
    exact absurd (by simp [whole]) h

end Runbook.Text
