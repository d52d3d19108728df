import AccessMask.Proofs.PrintedCharacters
import Mathlib.Algebra.Ring.Parity
import Mathlib.Data.List.DropRight

/-!
# Reading quoted text

Quoted text can be read back, character by character, up to the quotation mark
that closes it. That mark is found without reading what stands in front of it:
it is the first one behind an even number of backslashes.
-/

namespace AccessMask.Text.Quoted

/-! ## A reader -/

/-- Where a reader of quoted text stands. -/
inductive Place where
  | plain
  /-- Behind a backslash. -/
  | marked
  /-- In front of the brace that opens a code point. -/
  | announced
  /-- Behind some digits of a code point. -/
  | code (number : Nat)
  deriving DecidableEq, Repr

/-- The character that a letter stands for behind a backslash. -/
def ofLetter? : Char → Option Char
  | '0' => some '\x00'
  | 't' => some '\t'
  | 'r' => some '\r'
  | 'n' => some '\n'
  | '"' => some '"'
  | '\\' => some '\\'
  | _ => none

/-- Puts a character in front of a text that was read. -/
def prepend (c : Char) (found : List Char × List Char) : List Char × List Char :=
  (c :: found.1, found.2)

/-- Reads up to the closing quotation mark. The answer is the text and all that
stands behind the mark. -/
def read : Place → List Char → Option (List Char × List Char)
  | _, [] => none
  | .plain, c :: rest =>
      if c = '"' then some ([], rest)
      else if c = '\\' then read .marked rest
      else (read .plain rest).map (prepend c)
  | .marked, c :: rest =>
      if c = 'u' then read .announced rest
      else (ofLetter? c).bind fun meant => (read .plain rest).map (prepend meant)
  | .announced, c :: rest => if c = '\x7b' then read (.code 0) rest else none
  | .code number, c :: rest =>
      if c = '\x7d' then (read .plain rest).map (prepend (Char.ofNat number))
      else
        (Literal.hexDigit? c).bind fun digit =>
          read (.code (number * Literal.Radix.hexadecimal.base + digit)) rest

/-- Reads a text in quotes with nothing around them. -/
def unquote? (quoted : String) : Option String :=
  match quoted.toList with
  | '"' :: rest =>
      match read .plain rest with
      | some (text, []) => some (String.ofList text)
      | _ => none
  | _ => none

theorem mem_smallDigits_of_mem_hexDigits {number : Nat} {c : Char}
    (member : c ∈ Numeral.hexDigits number) :
    c ∈ Literal.smallDigits := by
  have small : c ∈ Literal.smallDigits.take Literal.Radix.hexadecimal.base :=
    Literal.mem_smallDigits_of_mem_toDigits member
  exact List.mem_of_mem_take small

theorem ofDigits_hexDigits (number : Nat) :
    Literal.ofDigits Literal.Radix.hexadecimal.base
        ((Numeral.hexDigits number).map Literal.digitValue) =
      number := by
  have small : ∀ digit ∈ Numeral.hexDigits number,
      digit ∈ Literal.smallDigits.take Literal.Radix.hexadecimal.base :=
    fun _ member => Literal.mem_smallDigits_of_mem_toDigits member
  rw [Literal.ofDigits_eq, ← Literal.positionalValue_of_small small]
  exact Literal.positionalValue_toDigits .hexadecimal number

section

variable (rest : List Char)

theorem read_code {digits : List Char} (small : ∀ c ∈ digits, c ∈ Literal.smallDigits)
    (number : Nat) :
    read (.code number) (digits ++ '\x7d' :: rest) =
      (read .plain rest).map
        (prepend (Char.ofNat ((digits.map Literal.digitValue).foldl
          (fun value digit => value * Literal.Radix.hexadecimal.base + digit) number))) := by
  have noBrace : '\x7d' ∉ Literal.smallDigits := by decide
  induction digits generalizing number with
  | nil => rfl
  | cons digit others inductionHypothesis =>
      obtain ⟨digitSmall, othersSmall⟩ := List.forall_mem_cons.mp small
      have otherThanBrace : digit ≠ '\x7d' := by
        rintro rfl
        exact noBrace digitSmall
      have value : Literal.hexDigit? digit = some (Literal.digitValue digit) :=
        Literal.hexDigit?_of_mem digit (List.mem_append_left _ digitSmall)
      rw [List.cons_append, read, if_neg otherThanBrace, value, Option.bind_some,
        inductionHypothesis othersSmall, List.map_cons, List.foldl_cons]

theorem read_codePoint (c : Char) :
    read .plain (codePoint c ++ rest) = (read .plain rest).map (prepend c) := by
  have characters :
      codePoint c ++ rest =
        '\\' :: 'u' :: '\x7b' :: (Numeral.hexDigits c.toNat ++ '\x7d' :: rest) := by
    simp [codePoint]
  have number := ofDigits_hexDigits c.toNat
  rw [Literal.ofDigits] at number
  rw [characters]
  change read (.code 0) _ = _
  rw [read_code rest (fun _ => mem_smallDigits_of_mem_hexDigits), number, Char.ofNat_toNat]

/-- The form of a character is read as that character, whatever follows. -/
theorem read_escape (c : Char) :
    read .plain (escape c ++ rest) = (read .plain rest).map (prepend c) := by
  unfold escape
  split_ifs with nul tab carriageReturn lineFeed quotationMark backslash hidden
  · rw [nul]
    rfl
  · rw [tab]
    rfl
  · rw [carriageReturn]
    rfl
  · rw [lineFeed]
    rfl
  · rw [quotationMark]
    rfl
  · rw [backslash]
    rfl
  · exact read_codePoint rest c
  · rw [List.singleton_append, read, if_neg quotationMark, if_neg backslash]

theorem read_body (text : String) :
    read .plain (body text ++ '"' :: rest) = some (text.toList, rest) := by
  rw [body]
  induction text.toList with
  | nil => rfl
  | cons c others inductionHypothesis =>
      rw [List.flatMap_cons, List.append_assoc, read_escape, inductionHypothesis]
      rfl

end

theorem unquote?_quote (text : String) : unquote? (quote text) = some text := by
  have characters : (quote text).toList = '"' :: (body text ++ ['"']) := String.toList_ofList
  simp only [unquote?, characters, read_body, String.ofList_toList]

example : unquote? "\"a\\u\x7b301\x7d\\\\u\x7b41\x7d\"" = some "a\u0301\\u\x7b41\x7d" := by decide

/-! ## Where a quotation ends -/

/-- True of a text that an odd number of backslashes ends. -/
def EndsMarked (text : List Char) : Prop := Odd (text.rtakeWhile (· = '\\')).length

theorem endsMarked_backslash (text : List Char) :
    EndsMarked (text ++ ['\\']) ↔ ¬ EndsMarked text := by
  rw [EndsMarked, List.rtakeWhile_concat_pos _ _ _ (by decide), List.length_append,
    List.length_singleton, Nat.odd_add_one]
  rfl

theorem not_endsMarked_concat {c : Char} (other : c ≠ '\\') (text : List Char) :
    ¬ EndsMarked (text ++ [c]) := by
  rw [EndsMarked, List.rtakeWhile_concat_neg _ _ _ (by simpa using other)]
  exact Nat.not_odd_zero

/-- True of a piece of text that leaves no character marked, and in which every
quotation mark is marked, if it stands behind a text that leaves none marked. -/
def IsGuarded (piece : List Char) : Prop :=
  ∀ before, ¬ EndsMarked before →
    ¬ EndsMarked (before ++ piece) ∧
      ∀ left right, piece = left ++ '"' :: right → EndsMarked (before ++ left)

theorem isGuarded_nil : IsGuarded [] := by
  intro before unmarked
  rw [List.append_nil]
  refine ⟨unmarked, ?_⟩
  intro left right shape
  simp at shape

theorem isGuarded_append {first second : List Char} (firstGuarded : IsGuarded first)
    (secondGuarded : IsGuarded second) :
    IsGuarded (first ++ second) := by
  intro before unmarked
  obtain ⟨firstUnmarked, firstInside⟩ := firstGuarded before unmarked
  obtain ⟨secondUnmarked, secondInside⟩ := secondGuarded (before ++ first) firstUnmarked
  rw [← List.append_assoc]
  refine ⟨secondUnmarked, ?_⟩
  intro left right shape
  rcases List.append_eq_append_iff.mp shape with
    ⟨others, rfl, inSecond⟩ | ⟨others, inFirst, behind⟩
  · rw [← List.append_assoc]
    exact secondInside others right inSecond
  · cases others with
    | nil =>
        rw [List.append_nil] at inFirst
        subst inFirst
        have marked := secondInside [] right behind.symm
        rwa [List.append_nil] at marked
    | cons mark between =>
        obtain ⟨rfl, -⟩ := List.cons.inj behind
        exact firstInside left between inFirst

/-- A piece without a quotation mark that ends in another character than a
backslash. -/
theorem isGuarded_concat {piece : List Char} {c : Char} (noMark : '"' ∉ piece ++ [c])
    (other : c ≠ '\\') :
    IsGuarded (piece ++ [c]) := by
  intro before _
  rw [← List.append_assoc]
  refine ⟨not_endsMarked_concat other (before ++ piece), ?_⟩
  intro left right shape
  rw [shape] at noMark
  simp at noMark

theorem isGuarded_letter (letter : Char) : IsGuarded ['\\', letter] := by
  intro before unmarked
  have marked : EndsMarked (before ++ ['\\']) := (endsMarked_backslash before).mpr unmarked
  constructor
  · rw [← List.singleton_append, ← List.append_assoc]
    by_cases backslash : letter = '\\'
    · rw [backslash, endsMarked_backslash, not_not]
      exact marked
    · exact not_endsMarked_concat backslash _
  · intro left right shape
    cases left with
    | nil => simp at shape
    | cons first others =>
        obtain ⟨rfl, behind⟩ := List.cons.inj shape
        cases others with
        | nil => exact marked
        | cons second others => simp at behind

theorem isGuarded_escape (c : Char) : IsGuarded (escape c) := by
  rcases escape_cases c with ⟨letter, _, form⟩ | form | ⟨_, form⟩
  · rw [form]
    exact isGuarded_letter letter
  · have noMark : '"' ∉ Literal.smallDigits := by decide
    have shape :
        codePoint c = ('\\' :: 'u' :: '\x7b' :: Numeral.hexDigits c.toNat) ++ ['\x7d'] := rfl
    rw [form, shape]
    refine isGuarded_concat ?_ (by decide)
    intro member
    have inDigits : '"' ∈ Numeral.hexDigits c.toNat := by simpa using member
    exact noMark (mem_smallDigits_of_mem_hexDigits inDigits)
  · have quotationMark : c ≠ '"' := by
      rintro rfl
      exact absurd form (by decide)
    have backslash : c ≠ '\\' := by
      rintro rfl
      exact absurd form (by decide)
    have noMark : '"' ∉ [] ++ [c] := by simpa using quotationMark.symm
    rw [form]
    exact isGuarded_concat noMark backslash

theorem isGuarded_body (text : String) : IsGuarded (body text) := by
  rw [body]
  induction text.toList with
  | nil => exact isGuarded_nil
  | cons c others inductionHypothesis =>
      rw [List.flatMap_cons]
      exact isGuarded_append (isGuarded_escape c) inductionHypothesis

/-- The quotation in a line: what stands before it, inside and behind. The first
quotation mark opens it, and the first one behind that mark with no odd number
of backslashes in front closes it. -/
structure Quotation (line before inside behind : List Char) : Prop where
  whole : line = before ++ '"' :: (inside ++ '"' :: behind)
  opens : '"' ∉ before
  goesOn : ∀ left right, inside = left ++ '"' :: right → EndsMarked (before ++ '"' :: left)
  closes : ¬ EndsMarked (before ++ '"' :: inside)

theorem quotation_body {before : List Char} (opens : '"' ∉ before) (text : String)
    (behind : List Char) :
    Quotation (before ++ (quote text).toList ++ behind) before (body text) behind := by
  have opening : ¬ EndsMarked (before ++ ['"']) := not_endsMarked_concat (by decide) before
  obtain ⟨closes, goesOn⟩ := isGuarded_body text (before ++ ['"']) opening
  refine ⟨?_, opens, ?_, ?_⟩
  · simp [quote]
  · intro left right shape
    have marked := goesOn left right shape
    rwa [List.append_assoc, List.singleton_append] at marked
  · rwa [List.append_assoc, List.singleton_append] at closes

end AccessMask.Text.Quoted
