import Mathlib.Data.List.Basic

/-!
# Reading a command line

Options and their values up to the first other token. An option begins with a dash; what follows a
`=` in it is its value, and otherwise the next token is, unless the option is a switch.
-/

namespace ModelSwitch.Argv

/-- The options of a command line, its first other token, and what follows that token. -/
structure Reading where
  options : List (String × Option String)
  first : String
  rest : List String

def Reading.push (option : String × Option String) (r : Reading) : Reading :=
  { r with options := option :: r.options }

def isOption (token : String) : Bool := token.toList.head? = some '-'

/-- What stands before the first `=`, and what follows it. -/
def cut : List Char → List Char × Option (List Char)
  | [] => ([], none)
  | '=' :: cs => ([], some cs)
  | c :: cs => (c :: (cut cs).1, (cut cs).2)

def nameOf (token : String) : String := String.ofList (cut token.toList).1

def valueOf (token : String) : Option String := (cut token.toList).2.map String.ofList

def read (isSwitch : String → Bool) : List String → Option Reading
  | [] => none
  | [token] => if isOption token then none else some ⟨[], token, []⟩
  | token :: next :: tokens =>
    if isOption token then
      if (valueOf token).isSome ∨ isSwitch (nameOf token) then
        (read isSwitch (next :: tokens)).map (.push (nameOf token, valueOf token))
      else (read isSwitch tokens).map (.push (nameOf token, some next))
    else some ⟨[], token, next :: tokens⟩

variable {isSwitch : String → Bool} {token next : String} {tokens : List String} {r : Reading}

/-- The first other token is no option. -/
lemma isOption_first (h : read isSwitch tokens = some r) : isOption r.first = false := by
  fun_induction read isSwitch tokens generalizing r with
  | case1 => cases h
  | case2 token hoption => cases h
  | case3 token hoption =>
    cases h
    simpa using hoption
  | case4 token next tokens hoption hvalue ih =>
    obtain ⟨r', hr', rfl⟩ := Option.map_eq_some_iff.mp h
    have hfirst := ih hr'
    exact hfirst
  | case5 token next tokens hoption hvalue ih =>
    obtain ⟨r', hr', rfl⟩ := Option.map_eq_some_iff.mp h
    have hfirst := ih hr'
    exact hfirst
  | case6 token next tokens hoption =>
    cases h
    simpa using hoption

lemma read_switch (hoption : isOption token = true)
    (hvalue : (valueOf token).isSome = true ∨ isSwitch (nameOf token) = true)
    (h : read isSwitch (next :: tokens) = some r) :
    read isSwitch (token :: next :: tokens) = some (r.push (nameOf token, valueOf token)) := by
  rw [read, if_pos hoption, if_pos hvalue, h, Option.map_some]

lemma read_valued (hoption : isOption token = true) (hvalue : valueOf token = none)
    (hswitch : isSwitch (nameOf token) = false) (h : read isSwitch tokens = some r) :
    read isSwitch (token :: next :: tokens) = some (r.push (nameOf token, some next)) := by
  rw [read, if_pos hoption, if_neg (by simp [hvalue, hswitch]), h, Option.map_some]

lemma read_first (hoption : isOption token = false) :
    read isSwitch (token :: tokens) = some ⟨[], token, tokens⟩ := by
  cases tokens <;> rw [read, if_neg (by simp [hoption])]

end ModelSwitch.Argv
