import DeclMacros.Meaning.Forwarding
import DeclMacros.Sample.Declaration

/-! # A zoo of wrapped animals

    Two kinds of animal behind one wrapper, and a list of them that is worked on step
    by step. -/

set_option autoImplicit false

namespace DeclMacros.Zoo

/-- An animal. -/
inductive Animal where
  | cat
  | bird (song : String)

/-- The sound, made some number of times.  The sounds are first lined up in a list of 16 bytes each,
    and lists end before 2^63 bytes. -/
def repeated (sound : String) (times : Int) : Reply :=
  if times < Int.pow 2 59 then .value (.text (" ".intercalate (List.replicate times.toNat sound)))
  else .crashed .capacityOverflow

/-- Twice a number of 32 bits, which must fit 32 bits again. -/
def doubled (n : Int) : Reply :=
  if n * 2 < Int.pow 2 32 then .value (.number (n * 2)) else .crashed .productOverflow

/-- What an animal answers. -/
def Animal.implementor : Animal → Implementor
  | .cat, "name", [] => .value (.text "Tom")
  | .cat, "legs", [] => .value (.number 4)
  | .cat, "speak", [.number times] => repeated "meow" times
  | .cat, "greet", [.text other] => .value (.text ("hiss, " ++ other))
  | .cat, "sleep", [.number hours] => doubled hours
  | .bird _, "name", [] => .value (.text "Tweety")
  | .bird _, "legs", [] => .value (.number 2)
  | .bird song, "speak", [.number times] => repeated song times
  | .bird song, "greet", [.text other] => .value (.text (song ++ " to " ++ other))
  | .bird _, "sleep", [.number hours] => .value (.number hours)
  | _, _, _ => .refused

/-- What is done with one animal of the zoo. -/
inductive Action where
  /-- A property is read, by its method and from its field. -/
  | read (name : String)
  /-- A method is called. -/
  | call (name : String) (arguments : List Value)
  /-- A copy comes in at the end. -/
  | copy
  /-- A wrapper of the wrapper comes in at the end. -/
  | wrapAgain
  /-- The animal leaves; those after it move up. -/
  | remove

/-- What a step answers. -/
inductive Answer where
  /-- There is no such animal. -/
  | nobody
  | property (byMethod fromField : Reply)
  | result (r : Reply)
  | count (n : Nat)

/-- The crash in an answer. -/
def Answer.crash? : Answer → Option Crash
  | .property (.crashed c) _ | .property _ (.crashed c) | .result (.crashed c) => some c
  | _ => none

/-- One step: the zoo after it, and its answer. -/
def step (w : Wrapper) (zoo : List Wrapped) (index : Nat) (action : Action) :
    List Wrapped × Answer :=
  match zoo[index]? with
  | none => (zoo, .nobody)
  | some animal =>
    match action with
    | .read name => (zoo, .property (w.implementor animal name []) (animal.property name))
    | .call name arguments => (zoo, .result (w.implementor animal name arguments))
    | .copy => grown (zoo ++ [animal])
    | .wrapAgain => grown (zoo ++ [w.wrap (w.implementor animal)])
    | .remove => grown (zoo.eraseIdx index)
where
  /-- A changed zoo answers its size. -/
  grown (zoo : List Wrapped) : List Wrapped × Answer := (zoo, .count zoo.length)

/-- The answers of all steps in order, unless one of them crashes. -/
def run (w : Wrapper) : List Wrapped → List (Nat × Action) → Except Crash (List Answer)
  | _, [] => .ok []
  | zoo, (index, action) :: rest =>
    let (next, answer) := step w zoo index action
    match answer.crash? with
    | some c => .error c
    | none => (run w next rest).map (answer :: ·)

/-- Opens a zoo with these animals and works through the steps. -/
def visit (animals : List Animal) (steps : List (Nat × Action)) :
    Option (Except Crash (List Answer)) :=
  Sample.animal.wrapper?.map fun w =>
    run w (animals.map fun a => w.wrap a.implementor) steps

end DeclMacros.Zoo
