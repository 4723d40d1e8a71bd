import Mathlib.Data.List.Basic
import Mathlib.Tactic.Ring

/-! Byte strings as `FizzServerCommand.cpp` handles them: `std::string`, `IOBuf`
contents and the text the tool formats. Only the library functions the tool
calls on bytes are here: `strncmp`, `folly::hexlify`, `folly::unhexlify`, the
decimal `{}` of `folly::format`, `std::ifstream >> std::string`, and
`folly::split` and `folly::join` at one byte. -/
namespace FizzServer

abbrev Bytes := List UInt8

def ascii (s : String) : Bytes := s.toList.map fun c => c.toNat.toUInt8

@[simp] theorem ascii_append (s t : String) : ascii (s ++ t) = ascii s ++ ascii t := by
  simp [ascii]

/-! ## `strncmp` -/

/-- C's `strncmp(a, b, n)` on byte strings: the difference of the first unequal
bytes among the first `n`, stopping after a NUL both strings share. A byte past
the end reads as the terminating NUL. -/
def strncmp : Bytes → Bytes → Nat → Int
  | _, _, 0 => 0
  | a, b, n + 1 =>
    let x := a.headD 0
    let y := b.headD 0
    if x ≠ y then (x.toNat : Int) - y.toNat
    else if x = 0 then 0
    else strncmp a.tail b.tail n

theorem strncmp_eq_zero_iff (a b : Bytes) (n : Nat) (long : n ≤ b.length)
    (noNul : (0 : UInt8) ∉ b.take n) : strncmp a b n = 0 ↔ a.take n = b.take n := by
  induction n generalizing a b with
  | zero => simp [strncmp]
  | succ n ih =>
    cases b with
    | nil => simp at long
    | cons y b =>
      have hy : y ≠ 0 := fun h => noNul (by simp [h])
      have rest : (0 : UInt8) ∉ b.take n := fun h => noNul (by simp [h])
      cases a with
      | nil =>
        have : y.toNat ≠ 0 := fun h => hy (UInt8.toNat.inj h)
        simp [strncmp,hy,Ne.symm hy,this]
      | cons x a =>
        by_cases same : x = y
        · subst same
          simp [strncmp,hy,ih a b (by simpa using long) rest]
        · have : (x.toNat : Int) ≠ y.toNat := by
            intro h; exact same (UInt8.toNat.inj (by exact_mod_cast h))
          simp [strncmp,same,sub_eq_zero,this]

/-! ## Hex -/

def hexDigit (d : Nat) : UInt8 := if d < 10 then (48 + d).toUInt8 else (87 + d).toUInt8

/-- `folly::hexlify`: two lower-case hex digits per byte. -/
def hexlify (bs : Bytes) : Bytes := bs.flatMap fun b => [hexDigit (b.toNat / 16),hexDigit (b.toNat % 16)]

def hexValue (c : UInt8) : Option Nat :=
  if 48 ≤ c ∧ c ≤ 57 then some (c.toNat - 48)
  else if 97 ≤ c ∧ c ≤ 102 then some (c.toNat - 87)
  else if 65 ≤ c ∧ c ≤ 70 then some (c.toNat - 55)
  else none

/-- `folly::unhexlify(StringPiece, std::string&)`: `none` on an odd length or a
byte that is not a hex digit, where the `std::string` overload throws. -/
def unhexlify : Bytes → Option Bytes
  | [] => some []
  | [_] => none
  | hi :: lo :: rest => do
    let h ← hexValue hi
    let l ← hexValue lo
    let tail ← unhexlify rest
    return (h * 16 + l).toUInt8 :: tail

theorem hexValue_hexDigit {d : Nat} (small : d < 16) : hexValue (hexDigit d) = some d := by
  obtain ⟨d,rfl⟩ : ∃ i : Fin 16, i.val = d := ⟨⟨d,small⟩,rfl⟩
  revert d
  decide

theorem unhexlify_hexlify (bs : Bytes) : unhexlify (hexlify bs) = some bs := by
  induction bs with
  | nil => rfl
  | cons b bs ih =>
    have byte := b.toNat_lt_size
    have high := hexValue_hexDigit (d := b.toNat / 16) (by simp only [UInt8.size] at byte; omega)
    have low := hexValue_hexDigit (d := b.toNat % 16) (by omega)
    have halves : (b.toNat / 16 * 16 + b.toNat % 16).toUInt8 = b := by
      rw [Nat.div_add_mod']
      exact UInt8.toNat.inj (UInt8.toNat_ofNat_of_lt byte)
    simp only [hexlify,List.flatMap_cons,List.cons_append,List.nil_append] at ih ⊢
    simp [unhexlify,high,low,ih,halves]

def decimalDigit (d : Nat) : UInt8 := (48 + d).toUInt8

def decimal (n : Nat) : Bytes :=
  (if n < 10 then [] else decimal (n / 10)) ++ [decimalDigit (n % 10)]
decreasing_by omega

def readDecimal (acc : Nat) (digits : Bytes) : Nat :=
  digits.foldl (fun acc b => acc * 10 + (b.toNat - 48)) acc

theorem decimalDigit_toNat {d : Nat} (small : d < 10) : (decimalDigit d).toNat = 48 + d :=
  UInt8.toNat_ofNat_of_lt (by simp only [UInt8.size]; omega)

theorem readDecimal_decimal (n : Nat) : readDecimal 0 (decimal n) = n := by
  induction n using Nat.strong_induction_on with
  | _ n ih =>
    rw [decimal]
    have digit := decimalDigit_toNat (Nat.mod_lt n (by omega : 10 > 0))
    by_cases small : n < 10
    · simp only [small,if_true,readDecimal,List.nil_append,List.foldl_cons,List.foldl_nil,
        digit]
      omega
    · have front := ih (n / 10) (by omega)
      simp only [small,if_false,readDecimal,List.foldl_append] at front ⊢
      simp only [front,List.foldl_cons,List.foldl_nil,digit]
      omega

theorem decimal_isDigit (n : Nat) : ∀ b ∈ decimal n, 48 ≤ b.toNat ∧ b.toNat ≤ 57 := by
  induction n using Nat.strong_induction_on with
  | _ n ih =>
    rw [decimal]
    have digit := decimalDigit_toNat (Nat.mod_lt n (by omega : 10 > 0))
    intro b member
    simp only [List.mem_append,List.mem_singleton] at member
    rcases member with front | rfl
    · split at front
      · simp at front
      · exact ih (n / 10) (by omega) b front
    · omega

/-! ## `std::ifstream >> std::string` -/

def isSpace (b : UInt8) : Bool := b = 32 || (9 ≤ b && b ≤ 13)

/-- The whitespace-separated words of a file, in order: what successive
`infile >> word` read. -/
def words (content : Bytes) : List Bytes :=
  (content.splitOnP isSpace).filter (· ≠ [])

/-- The `i`-th word `>>` reads from a file, or the empty string the target keeps
when the file is missing or has fewer words. -/
def readWord (file : Option Bytes) (i : Nat) : Bytes :=
  ((file.map words).getD []).getD i []

theorem isSpace_hexDigit {d : Nat} (small : d < 16) : isSpace (hexDigit d) = false := by
  obtain ⟨d,rfl⟩ : ∃ i : Fin 16, i.val = d := ⟨⟨d,small⟩,rfl⟩
  revert d
  decide

theorem not_isSpace_hexlify (bs : Bytes) : ∀ c ∈ hexlify bs, ¬ isSpace c := by
  intro c member
  simp only [hexlify,List.mem_flatMap,List.mem_cons,List.mem_singleton,List.not_mem_nil,or_false] at member
  obtain ⟨b,-,rfl | rfl⟩ := member
  · have byte := b.toNat_lt_size
    simp only [UInt8.size] at byte
    simp [isSpace_hexDigit (d := b.toNat / 16) (by omega)]
  · simp [isSpace_hexDigit (d := b.toNat % 16) (by omega)]

theorem hexlify_ne_nil {bs : Bytes} (nonempty : bs ≠ []) : hexlify bs ≠ [] := by
  cases bs
  · exact absurd rfl nonempty
  · simp [hexlify]

theorem words_spaces (spaces rest : Bytes) (blank : ∀ c ∈ spaces, isSpace c) : words (spaces ++ rest) = words rest := by
  induction spaces with
  | nil => rfl
  | cons c spaces ih =>
    simp only [List.mem_cons,forall_eq_or_imp] at blank
    rw [← ih blank.2]
    simp [words,List.splitOnP_cons,blank.1]

theorem words_word (word rest : Bytes) (clean : ∀ c ∈ word, ¬ isSpace c) (nonempty : word ≠ []) (sep : UInt8)
    (blank : isSpace sep) : words (word ++ sep :: rest) = word :: words rest := by
  simp [words,List.splitOnP_first _ _ clean sep blank,nonempty]

theorem words_hexlify (first second before between after : Bytes) (nonempty : first ≠ [] ∧ second ≠ [])
    (blankBefore : ∀ c ∈ before, isSpace c) (blankBetween : ∀ c ∈ between, isSpace c) (separated : between ≠ [])
    (blankAfter : ∀ c ∈ after, isSpace c) :
    words (before ++ hexlify first ++ between ++ hexlify second ++ after) = [hexlify first,hexlify second] := by
  obtain ⟨sep,between,rfl⟩ := List.exists_cons_of_ne_nil separated
  simp only [List.mem_cons,forall_eq_or_imp] at blankBetween
  have last : words (hexlify second ++ after) = [hexlify second] := by
    cases after with
    | nil => simp [words,List.splitOnP_eq_single _ _ (not_isSpace_hexlify second),hexlify_ne_nil nonempty.2]
    | cons sep' after =>
      simp only [List.mem_cons,forall_eq_or_imp] at blankAfter
      rw [words_word _ _ (not_isSpace_hexlify second) (hexlify_ne_nil nonempty.2) sep' blankAfter.1,
        ← List.append_nil after,words_spaces _ _ blankAfter.2]
      rfl
  simp only [List.append_assoc,List.cons_append]
  rw [words_spaces _ _ blankBefore,words_word _ _ (not_isSpace_hexlify first) (hexlify_ne_nil nonempty.1) sep
    blankBetween.1,words_spaces _ _ blankBetween.2,last]

/-! ## `folly::split` and `folly::join`

`folly::join(delim, pieces, out)` at one byte is written `[delim].intercalate pieces`. -/

/-- `folly::split(delim, value, out)` at one byte, empty pieces kept: the value
cut at every delimiter, an empty value giving one empty piece. -/
def split (delim : UInt8) (value : Bytes) : List Bytes := value.splitOn delim

theorem mem_intercalate {delim x : UInt8} {pieces : List Bytes} (member : x ∈ [delim].intercalate pieces) :
    x = delim ∨ ∃ piece ∈ pieces, x ∈ piece := by
  induction pieces with
  | nil => simp [List.intercalate] at member
  | cons piece pieces ih =>
    cases pieces with
    | nil => exact .inr ⟨piece,by simp,by simpa [List.intercalate] using member⟩
    | cons next rest =>
      simp only [List.intercalate,List.intersperse_cons_cons,List.flatten_cons,List.mem_append,
        List.mem_singleton] at member ih
      rcases member with inPiece | isDelim | later
      · exact .inr ⟨piece,by simp,inPiece⟩
      · exact .inl isDelim
      · rcases ih later with isDelim | ⟨p,member,inP⟩
        · exact .inl isDelim
        · exact .inr ⟨p,List.mem_cons_of_mem _ member,inP⟩

theorem not_mem_intercalate {delim x : UInt8} {pieces : List Bytes} (other : x ≠ delim)
    (clean : ∀ piece ∈ pieces, x ∉ piece) : x ∉ [delim].intercalate pieces := fun inside =>
  (mem_intercalate inside).elim other fun ⟨piece,member,inPiece⟩ => clean piece member inPiece

theorem delim_mem_intercalate (delim : UInt8) (first second : Bytes) (rest : List Bytes) :
    delim ∈ [delim].intercalate (first :: second :: rest) := by
  simp [List.intercalate,List.intersperse_cons_cons]

theorem not_mem_of_mem_split {delim : UInt8} {value piece : Bytes} (member : piece ∈ split delim value) :
    delim ∉ piece := by
  induction value generalizing piece with
  | nil =>
    obtain rfl : piece = [] := by simpa [split,List.splitOn] using member
    exact List.not_mem_nil _
  | cons x xs ih =>
    have later : ∀ piece ∈ xs.splitOnP (· == delim), delim ∉ piece := fun _ member => ih member
    simp only [split,List.splitOn,List.splitOnP_cons] at member
    split at member
    · rcases List.mem_cons.mp member with rfl | member
      · exact List.not_mem_nil _
      · exact later _ member
    · rename_i kept
      obtain ⟨first,rest,cut⟩ := List.exists_cons_of_ne_nil (List.splitOnP_ne_nil (· == delim) xs)
      rw [cut,List.modifyHead_cons] at member
      rw [cut] at later
      rcases List.mem_cons.mp member with rfl | member
      · rintro (inside | ⟨_,inside⟩)
        · exact kept (by simp)
        · exact later first (List.mem_cons_self _ _) inside
      · exact later _ (List.mem_cons_of_mem _ member)

theorem split_eq_iff {delim : UInt8} {value : Bytes} {pieces : List Bytes} :
    split delim value = pieces ↔ value = [delim].intercalate pieces ∧ pieces ≠ [] ∧ ∀ piece ∈ pieces, delim ∉ piece := by
  constructor
  · rintro rfl
    exact ⟨(List.intercalate_splitOn value delim).symm,List.splitOnP_ne_nil _ _,fun _ => not_mem_of_mem_split⟩
  · rintro ⟨rfl,nonempty,clean⟩
    exact List.splitOn_intercalate pieces delim clean nonempty

end FizzServer
