import WallClock.Command.Arguments

/-!
# Reading options

An option is spelled in one argument or in two (`Command.Spelled`). Reading either spelling adds
the option at its level (`Arguments.readFrom_arguments`), and so reading a list of options, none of
them given twice, adds them all in their order (`Arguments.readFrom_options`).
-/

namespace WallClock
namespace Command

/-- An option as it is spelled on a command line. -/
structure Spelled where
  key : Key
  value : String
  /-- Whether the value stands behind an equals sign. It is the next argument otherwise. -/
  attached : Bool
  deriving DecidableEq

namespace Spelled

def arguments (o : Spelled) : List String :=
  if o.attached then ["--" ++ String.ofList o.key.name ++ "=" ++ o.value]
  else ["--" ++ String.ofList o.key.name, o.value]

/-- What is given by an option, however it is spelled. -/
def entry (o : Spelled) : Key × List Char := (o.key, o.value.toList)

/-- Whether an option may be spelled so: its value can be read as one, and does not start with a
dash in an argument of its own, unless the option admits that. -/
structure Admissible (o : Spelled) : Prop where
  accepts : o.key.accepts o.value.toList = true
  no_dash : o.attached = false → o.key.admitsDashes = false → o.value.toList.head? ≠ some '-'

end Spelled

/-- Adds options to this level, in their order. -/
def Given.addAll (g : Given) (entries : List (Key × List Char)) : Given :=
  match g.subcommand with
  | none => { g with outer := g.outer ++ entries }
  | some _ => { g with inner := g.inner ++ entries }

/-- Reads on from a state. -/
def Arguments.readFrom (state : Arguments) (args : List String) : Arguments :=
  args.foldl (fun state arg => step state arg.toList) state

variable {g : Given} {key : Key} {cs : List Char} {o : Spelled} {os : List Spelled}

/-! ## Forms of arguments -/

theorem Token.ofText_dashes (h : cs ≠ []) : Token.ofText ('-' :: '-' :: cs) = .ofName cs := by
  cases cs with
  | nil => exact absurd rfl h
  | cons c cs => rfl

theorem Token.ofText_of_head? (h : cs.head? ≠ some '-') : Token.ofText cs = .plain := by
  unfold Token.ofText
  split <;> simp_all

namespace Key

theorem name_ne_nil (key : Key) : key.name ≠ [] := by
  cases key <;> exact List.cons_ne_nil _ _

theorem name_injective {key key' : Key} (h : key.name = key'.name) : key = key' := by
  revert h
  cases key <;> cases key' <;> decide

theorem ofName_name (key : Key) : Token.ofName key.name = .long key.name none := by
  cases key <;> rfl

theorem ofName_name_append (key : Key) (cs : List Char) :
    Token.ofName (key.name ++ '=' :: cs) = .long key.name (some cs) := by
  cases key <;> rfl

end Key

/-! ## Adding options -/

namespace Given

theorem key?_name (h : key ∈ g.keys) : g.key? key.name = some key := by
  cases hfind : g.key? key.name with
  | none => simpa using List.find?_eq_none.1 hfind key h
  | some found => exact congrArg some (Key.name_injective (by simpa using List.find?_some hfind))

theorem addAll_nil (g : Given) : g.addAll [] = g := by
  unfold addAll
  split <;> rw [List.append_nil]

theorem addAll_add (g : Given) (key : Key) (cs : List Char) (entries : List (Key × List Char)) :
    (g.add key cs).addAll entries = g.addAll ((key, cs) :: entries) := by
  obtain ⟨outer, subcommand, inner, operands⟩ := g
  cases subcommand <;> simp [add, addAll]

theorem keys_add (g : Given) (key : Key) (cs : List Char) : (g.add key cs).keys = g.keys := by
  obtain ⟨outer, subcommand, inner, operands⟩ := g
  cases subcommand <;> rfl

theorem has_add {key' : Key} (h : g.has key' = false) (hne : key' ≠ key) :
    (g.add key cs).has key' = false := by
  have hoptions : (g.add key cs).options = g.options ++ [(key, cs)] := by
    obtain ⟨outer, subcommand, inner, operands⟩ := g
    cases subcommand <;> rfl
  unfold has at h ⊢
  rw [hoptions, List.lookup_append, Option.isSome_or, h, List.lookup_cons,
    beq_eq_false_iff_ne.2 hne]
  rfl

end Given

/-! ## Reading options -/

namespace Arguments

theorem readFrom_append (state : Arguments) (args args' : List String) :
    state.readFrom (args ++ args') = (state.readFrom args).readFrom args' := List.foldl_append

/-- An option that can be given at this point and has not been given takes its value from behind
the equals sign or waits for it. -/
theorem step_option (hkey : key ∈ g.keys) (hnew : g.has key = false)
    {attached : Option (List Char)} (harg : Token.ofText cs = .long key.name attached) :
    step (.ready g) cs = attached.elim (.pending g key) (value g key) := by
  simp only [step, harg, long, Given.key?_name hkey]
  cases attached <;> simp [hnew]

/-- Either spelling of an option that has not been given yet adds it. -/
theorem readFrom_arguments (hkey : o.key ∈ g.keys) (hnew : g.has o.key = false)
    (ho : o.Admissible) : (ready g).readFrom o.arguments = .ready (g.add o.key o.value.toList) := by
  have hvalue : value g o.key o.value.toList = .ready (g.add o.key o.value.toList) :=
    if_pos ho.accepts
  unfold Spelled.arguments
  split
  case isTrue =>
    have harg : Token.ofText ("--" ++ String.ofList o.key.name ++ "=" ++ o.value).toList =
        .long o.key.name (some o.value.toList) := by
      rw [← o.key.ofName_name_append, ← Token.ofText_dashes (by simp)]
      simp
    exact (step_option hkey hnew harg).trans hvalue
  case isFalse hseparate =>
    have harg : Token.ofText ("--" ++ String.ofList o.key.name).toList =
        .long o.key.name none := by
      rw [← o.key.ofName_name, ← Token.ofText_dashes o.key.name_ne_nil]
      simp
    have hadmits : g.admits o.key o.value.toList = true := by
      unfold Given.admits
      cases hdashes : o.key.admitsDashes with
      | true => rfl
      | false =>
        rw [Token.ofText_of_head? (ho.no_dash (Bool.not_eq_true _ ▸ hseparate) hdashes)]
        rfl
    calc (ready g).readFrom ["--" ++ String.ofList o.key.name, o.value]
        = step (step (.ready g) ("--" ++ String.ofList o.key.name).toList) o.value.toList := rfl
      _ = step (.pending g o.key) o.value.toList := by rw [step_option hkey hnew harg]; rfl
      _ = value g o.key o.value.toList := if_pos hadmits
      _ = .ready (g.add o.key o.value.toList) := hvalue

/-- Options are added in their order when none of them is given twice. -/
theorem readFrom_options (hkeys : ∀ o ∈ os, o.key ∈ g.keys) (hnew : ∀ o ∈ os, g.has o.key = false)
    (honce : (os.map Spelled.key).Nodup) (hos : ∀ o ∈ os, o.Admissible) :
    (ready g).readFrom (os.flatMap Spelled.arguments) =
      .ready (g.addAll (os.map Spelled.entry)) := by
  induction os generalizing g with
  | nil => exact congrArg ready g.addAll_nil.symm
  | cons o os ih =>
    obtain ⟨hfresh, honce⟩ := List.nodup_cons.1 honce
    rw [List.flatMap_cons, readFrom_append,
      readFrom_arguments (hkeys o (.head _)) (hnew o (.head _)) (hos o (.head _)),
      ih _ _ honce fun o' ho' => hos o' (.tail _ ho'), Given.addAll_add]
    · rfl
    · intro o' ho'
      rw [Given.keys_add]
      exact hkeys o' (.tail _ ho')
    · intro o' ho'
      refine Given.has_add (hnew o' (.tail _ ho')) fun heq => hfresh ?_
      exact heq ▸ List.mem_map_of_mem ho'

end Arguments
end Command
end WallClock
