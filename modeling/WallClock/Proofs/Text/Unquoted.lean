import WallClock.Text.Quoted

/-!
# Quoted text can be read back

A reader of quoted text goes from one character to the next, and needs to know of those before only
whether they are part of an escape (`Text.Escaping`). What it reads from a quoted text is that text,
whatever is in it and whatever follows the closing quote (`Text.unquote?_quote`). So no two texts
are quoted alike, and quoting marks its own end (`Text.quote_append_inj`).
-/

namespace WallClock
namespace Text

/-- How far into an escape the reader is. -/
inductive Escaping
  /-- Outside of escapes. -/
  | plain
  /-- After the backslash. -/
  | begun
  /-- Before the brace of an escape by code point. -/
  | opened
  /-- Inside the braces, where the digits so far make up a number. -/
  | code (n : Nat)

/-- The character that a short escape stands for. -/
def shortEscape? (c : Char) : Option Char :=
  if c = '"' then some '"'
  else if c = '\\' then some '\\'
  else if c = 't' then some '\t'
  else if c = 'r' then some '\r'
  else if c = 'n' then some '\n'
  else if c = '0' then some '\x00'
  else none

/-- The value of a hexadecimal digit in lower case. -/
def hexDigit? (c : Char) : Option Nat := (List.range 16).find? fun k => Nat.digitChar k == c

/-- What is read of a text, with a character before it. -/
def withChar (c : Char) (read : Option (List Char × List Char)) : Option (List Char × List Char) :=
  read.map fun (cs, rest) => (c :: cs, rest)

/-- Reads up to the closing quote: the text quoted, and what comes after it. -/
def unquoteFrom : Escaping → List Char → Option (List Char × List Char)
  | _, [] => none
  | .plain, c :: cs =>
    if c = '"' then some ([], cs)
    else if c = '\\' then unquoteFrom .begun cs
    else withChar c (unquoteFrom .plain cs)
  | .begun, c :: cs =>
    if c = 'u' then unquoteFrom .opened cs
    else (shortEscape? c).bind fun d => withChar d (unquoteFrom .plain cs)
  | .opened, c :: cs => if c = '\x7b' then unquoteFrom (.code 0) cs else none
  | .code n, c :: cs =>
    if c = '\x7d' then withChar (Char.ofNat n) (unquoteFrom .plain cs)
    else (hexDigit? c).bind fun k => unquoteFrom (.code (16 * n + k)) cs

/-- Reads a quoted text at the front of a text: what it says, and what comes after it. -/
def unquote? : List Char → Option (List Char × List Char)
  | '"' :: cs => unquoteFrom .plain cs
  | _ => none

/-! ## One character -/

theorem unquoteFrom_digitChar (n : Nat) {k : Nat} (hk : k < 16) (cs : List Char) :
    unquoteFrom (.code n) (Nat.digitChar k :: cs) = unquoteFrom (.code (16 * n + k)) cs := by
  have hdigit : ∀ k < 16, Nat.digitChar k ≠ '\x7d' ∧ hexDigit? (Nat.digitChar k) = some k := by
    decide
  obtain ⟨hbrace, hvalue⟩ := hdigit k hk
  rw [unquoteFrom, if_neg hbrace, hvalue]
  rfl

/-- The digits of a number are read as that number. -/
theorem unquoteFrom_toDigits (n : Nat) (cs : List Char) :
    unquoteFrom (.code 0) (Nat.toDigits 16 n ++ cs) = unquoteFrom (.code n) cs := by
  induction n using Nat.strongRecOn generalizing cs with
  | ind n ih =>
    rw [Nat.toDigits_eq_if (by decide)]
    split
    case isTrue hn =>
      rw [List.singleton_append, unquoteFrom_digitChar 0 hn, Nat.mul_zero, Nat.zero_add]
    case isFalse hn =>
      have hdiv : n / 16 < n := Nat.div_lt_self (by omega) (by decide)
      have hmod : n % 16 < 16 := Nat.mod_lt n (by decide)
      rw [List.append_assoc, ih _ hdiv, List.singleton_append, unquoteFrom_digitChar _ hmod,
        Nat.div_add_mod]

theorem unquoteFrom_codePointEscape (c : Char) (cs : List Char) :
    unquoteFrom .plain (codePointEscape c ++ cs) = withChar c (unquoteFrom .plain cs) := by
  rw [codePointEscape, List.append_assoc, List.append_assoc]
  change unquoteFrom (.code 0) (Nat.toDigits 16 c.toNat ++ ('\x7d' :: cs)) = _
  rw [unquoteFrom_toDigits, unquoteFrom, if_pos rfl, Char.ofNat_toNat]

/-- An escape is read as the character it stands for. -/
theorem unquoteFrom_escape (c : Char) (cs : List Char) :
    unquoteFrom .plain (escape c ++ cs) = withChar c (unquoteFrom .plain cs) := by
  have hself (hquote : c ≠ '"') (hbackslash : c ≠ '\\') :
      unquoteFrom .plain ([c] ++ cs) = withChar c (unquoteFrom .plain cs) := by
    rw [List.singleton_append, unquoteFrom, if_neg hquote, if_neg hbackslash]
  unfold escape
  iterate 5 (split; next h => subst h; rfl)
  split
  case isTrue hzero =>
    obtain rfl : c = '\x00' := Char.toNat_inj.1 hzero
    rfl
  case isFalse =>
    split
    case isTrue => exact unquoteFrom_codePointEscape c cs
    case isFalse => exact hself ‹_› ‹_›

/-! ## Whole texts -/

theorem unquoteFrom_flatMap_escape (cs rest : List Char) :
    unquoteFrom .plain (cs.flatMap escape ++ '"' :: rest) = some (cs, rest) := by
  induction cs with
  | nil => rfl
  | cons c cs ih =>
    rw [List.flatMap_cons, List.append_assoc, unquoteFrom_escape, ih]
    rfl

/-- A quoted text is read as it was, up to its closing quote. -/
theorem unquote?_quote (cs rest : List Char) : unquote? (quote cs ++ rest) = some (cs, rest) := by
  rw [quote, List.append_assoc, List.append_assoc]
  exact unquoteFrom_flatMap_escape cs rest

/-- What was quoted can be told from the quotation, and from what follows it. -/
theorem quote_append_inj {cs ds rest rest' : List Char}
    (h : quote cs ++ rest = quote ds ++ rest') : cs = ds ∧ rest = rest' := by
  have hread := congrArg unquote? h
  rw [unquote?_quote, unquote?_quote] at hread
  cases hread
  exact ⟨rfl, rfl⟩

end Text
end WallClock
