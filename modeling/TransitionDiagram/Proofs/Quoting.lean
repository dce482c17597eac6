/-
TransitionDiagram.Proofs.Quoting: quoted texts show where they end.

A code gives every value a list of signs. It is prefix free if no code is the beginning of the code
of another value; then a value can be told from its code, whatever follows. Any number of prefix
free codes with a stop behind them are prefix free again, as long as none of them begins with the
stop.

The characters between quotes are written in such a code, and none of them is written with a quote
in front. So the quote that ends a text cannot be taken for one of its characters, and no text is
the beginning of another.

  §1 prefix free codes
  §2 any number of codes and a stop
  §3 characters between quotes
  §4 quoted texts
-/
import Mathlib.Data.List.Infix
import TransitionDiagram.Text.Quoted

namespace TransitionDiagram

/-! ## §1 Prefix free codes -/

/-- No code is the beginning of the code of another value. -/
def PrefixFree {α β : Type} (code : α → List β) : Prop :=
  ∀ ⦃a b : α⦄, code a <+: code b → a = b

namespace PrefixFree

variable {α α' β β' : Type} {code : α → List β}

/-- A value and what follows can be told from its code and what follows. -/
theorem append_inj (free : PrefixFree code) {a b : α} {after after' : List β}
    (same : code a ++ after = code b ++ after') : a = b ∧ after = after' := by
  have equal : a = b := by
    have left : code a <+: code b ++ after' := same ▸ List.prefix_append _ _
    rcases List.prefix_or_prefix_of_prefix left (List.prefix_append _ _) with begins | begins
    · exact free begins
    · exact (free begins).symm
  subst equal
  exact ⟨rfl, List.append_cancel_left same⟩

theorem injective (free : PrefixFree code) : Function.Injective code := fun a _ same =>
  free (same ▸ List.prefix_refl (code a))

/-- A code that is read back, whatever follows, is prefix free. -/
theorem of_read {read : List β → Option (α × List β)}
    (reads : ∀ a after, read (code a ++ after) = some (a, after)) : PrefixFree code := by
  rintro a b ⟨after, same⟩
  have first := reads a after
  have second := reads b []
  rw [same] at first
  rw [List.append_nil, first] at second
  exact congrArg Prod.fst (Option.some.inj second)

theorem comp (free : PrefixFree code) {f : α' → α} (inj : Function.Injective f) :
    PrefixFree fun a => code (f a) := fun _ _ begins =>
  inj (free begins)

theorem map (free : PrefixFree code) {f : β → β'} (inj : Function.Injective f) :
    PrefixFree fun a => (code a).map f := fun _ _ begins =>
  free ((List.prefix_map_iff_of_injective inj).mp begins)

/-- Codes with the same sign before them. -/
theorem cons (free : PrefixFree code) (first : β) : PrefixFree fun a => first :: code a :=
  fun _ _ begins => free (List.cons_prefix_cons.mp begins).2

/-! ## §2 Any number of codes and a stop -/

/-- The codes of some values with a stop behind the last one, which none of them begins with. -/
theorem list (free : PrefixFree code) (stop : β)
    (opens : ∀ a, ∃ first rest, code a = first :: rest ∧ first ≠ stop) :
    PrefixFree fun as : List α => as.flatMap code ++ [stop] := by
  -- Where one list of values goes on, the other has not come to its stop.
  have apart (a : α) (as : List α) (rest rest' : List β) :
      (a :: as).flatMap code ++ rest ≠ stop :: rest' := by
    obtain ⟨first, more, begins, other⟩ := opens a
    rw [List.flatMap_cons, begins]
    exact fun same => other (List.cons.inj same).1
  intro as bs
  induction as generalizing bs with
  | nil =>
    rintro ⟨rest, same⟩
    cases bs with
    | nil => rfl
    | cons b bs => exact absurd same.symm (apart b bs [stop] rest)
  | cons a as ih =>
    rintro ⟨rest, same⟩
    rw [List.append_assoc] at same
    cases bs with
    | nil => exact absurd same (apart a as ([stop] ++ rest) [])
    | cons b bs =>
      simp only [List.flatMap_cons, List.append_assoc] at same
      obtain ⟨rfl, later⟩ := free.append_inj same
      exact congrArg (a :: ·) (ih ⟨rest, by rwa [List.append_assoc]⟩)

end PrefixFree

namespace Text

/-! ## §3 Characters between quotes -/

/-- The number of a hexadecimal digit. -/
def hexValue (digit : Char) : Nat :=
  if digit ≤ '9' then digit.toNat - '0'.toNat else digit.toNat - 'a'.toNat + 10

/-- Reads what follows a backslash. -/
def readLetter : List Char → Option (Char × List Char)
  | 'b' :: rest => some ('\x08', rest)
  | 'f' :: rest => some ('\x0c', rest)
  | 'n' :: rest => some ('\n', rest)
  | 'r' :: rest => some ('\r', rest)
  | 't' :: rest => some ('\t', rest)
  | 'u' :: _ :: _ :: high :: low :: rest =>
    some (Char.ofNat (16 * hexValue high + hexValue low), rest)
  | c :: rest => some (c, rest)
  | [] => none

/-- Reads one character between quotes. -/
def readEscaped : List Char → Option (Char × List Char)
  | '\\' :: rest => readLetter rest
  | c :: rest => some (c, rest)
  | [] => none

theorem hexValue_digitChar : ∀ n < 16, hexValue (Nat.digitChar n) = n := by
  decide

/-- The character whose number is written with two hexadecimal digits. -/
theorem ofNat_hexValue {c : Char} (control : c.toNat < 0x20) :
    Char.ofNat (16 * hexValue (Nat.digitChar (c.toNat / 16)) +
      hexValue (Nat.digitChar (c.toNat % 16))) = c := by
  rw [hexValue_digitChar _ (by omega), hexValue_digitChar _ (by omega), Nat.div_add_mod,
    Char.ofNat_toNat]

/-- A character stands for itself, or a letter stands for it, or its number does. -/
theorem escape_cases (c : Char) :
    (escape c = [c] ∧ c ≠ '"' ∧ c ≠ '\\' ∧ 0x20 ≤ c.toNat) ∨
    (∃ letter, escape c = ['\\', letter] ∧ 0x20 ≤ letter.toNat ∧
      ∀ after, readLetter (letter :: after) = some (c, after)) ∨
    (c.toNat < 0x20 ∧ escape c =
      ['\\', 'u', '0', '0', Nat.digitChar (c.toNat / 16), Nat.digitChar (c.toNat % 16)]) := by
  generalize written : escape c = text
  unfold escape at written
  split_ifs at written with quote backslash _ _ _ _ _ control <;> subst written
  -- The seven cases before are letters, the last one is a character for itself.
  on_goal 8 => exact .inr (.inr ⟨control, rfl⟩)
  case neg => exact .inl ⟨rfl, quote, backslash, Nat.le_of_not_lt control⟩
  all_goals
    subst c
    exact .inr (.inl ⟨_, rfl, by decide, fun _ => rfl⟩)

theorem readEscaped_escape (c : Char) (after : List Char) :
    readEscaped (escape c ++ after) = some (c, after) := by
  rcases escape_cases c with ⟨same, -, plain, -⟩ | ⟨letter, same, -, reads⟩ | ⟨control, same⟩
  · rw [same, List.singleton_append, readEscaped]
    exact plain
  · rw [same]
    exact reads after
  · rw [same]
    exact congrArg (fun c => some (c, after)) (ofNat_hexValue control)

theorem escape_prefixFree : PrefixFree escape :=
  .of_read readEscaped_escape

/-- No character between quotes is written with a quote in front. -/
theorem escape_opens (c : Char) : ∃ first rest, escape c = first :: rest ∧ first ≠ '"' := by
  rcases escape_cases c with ⟨same, other, -⟩ | ⟨letter, same, -⟩ | ⟨-, same⟩
  · exact ⟨c, [], same, other⟩
  · exact ⟨'\\', _, same, by decide⟩
  · exact ⟨'\\', _, same, by decide⟩

/-- No character below U+0020 is left between quotes. -/
theorem le_of_mem_escape {c d : Char} (mem : d ∈ escape c) : 0x20 ≤ d.toNat := by
  rcases escape_cases c with ⟨same, -, -, printable⟩ | ⟨letter, same, printable, -⟩ |
    ⟨control, same⟩
  · obtain rfl : d = c := by simpa [same] using mem
    exact printable
  · rcases (show d = '\\' ∨ d = letter by simpa [same] using mem) with rfl | rfl
    · decide
    · exact printable
  · have digits : ∀ n < 16, 0x20 ≤ (Nat.digitChar n).toNat := by decide
    have high := digits (c.toNat / 16) (by omega)
    have low := digits (c.toNat % 16) (by omega)
    have all : ∀ d ∈ escape c, 0x20 ≤ d.toNat := by simp [same, high, low]
    exact all d mem

/-! ## §4 Quoted texts -/

/-- No quoted text is the beginning of another. -/
theorem quote_prefixFree : PrefixFree quote :=
  (escape_prefixFree.list '"' escape_opens).cons '"'

theorem le_of_mem_quote {s : List Char} {c : Char} (mem : c ∈ quote s) : 0x20 ≤ c.toNat := by
  simp only [quote, List.mem_cons, List.mem_append, List.mem_flatMap, List.not_mem_nil,
    or_false] at mem
  rcases mem with rfl | ⟨d, -, mem⟩ | rfl
  · decide
  · exact le_of_mem_escape mem
  · decide

end Text

end TransitionDiagram
