import DeclMacros.Attachment
import DeclMacros.Proofs.Operands
import DeclMacros.Proofs.Reading

/-! # The arguments of an attached macro

    Where a macro is attached stand pairs of a key and a value, with commas between
    them.  They are read in rounds, one pair in each, and a round changes what was read
    before it: a level replaces the one before, and a second type to convert from is
    refused.

    The route: what one round can come to is said once (`round_eq_ok_iff`).  Where no
    type to convert from is accepted, a round goes as where one is, unless it reads one
    (`round_false_iff`); from there it is an induction on the rounds, which rests on
    that a type that was read stays (`isSome_source_of_iterateWithin`).  For a list of
    pairs all rounds together are one fold over what the pairs say (`read_of_listed`):
    texts and names are read up to the next comma, and types are taken to be.  The rest
    is about this fold. -/

set_option autoImplicit false

namespace DeclMacros

open DeclMacros.Parser

namespace Argument

/-- The level of an access argument. -/
def level? : Argument → Option (Option AccessLevel)
  | .access level => some level
  | .source .. => none

/-- The type to convert from. -/
def source? : Argument → Option Ty
  | .access _ => none
  | .source _ ty => some ty

end Argument

namespace Attachment

/-! ## One round -/

/-- The attachment with one more argument, if that can be added. -/
def extend (a : Attachment) : Argument → Except Failure Attachment
  | .access level => .ok { a with access := level }
  | .source key ty =>
    if a.source.isSome then .error (.fault { cause := .duplicateSource, span := key.span })
    else .ok { a with source := some ty }

/-- To add an argument takes nothing from the input. -/
theorem add_eq (a : Attachment) (arg : Argument) (i : Input) :
    add a arg i = (a.extend arg).map fun next => (next, i) := by
  cases arg with
  | access level => rfl
  | source key ty =>
      unfold add extend
      cases a.source <;> rfl

/-- An argument can be added unless it is a second type to convert from. -/
theorem extend_eq_ok_iff {a next : Attachment} {arg : Argument} :
    a.extend arg = .ok next ↔ (a.source = none ∨ arg.source? = none)
      ∧ next = { access := arg.level?.getD a.access, source := a.source.or arg.source? } := by
  obtain ⟨access, source⟩ := a
  cases arg with
  | access level =>
      have hkept : source.or none = source := Option.or_none
      simp [extend, Argument.level?, Argument.source?, hkept, eq_comm]
  | source key ty =>
      cases source with
      | none => simp [extend, Argument.level?, Argument.source?, eq_comm]
      | some old => simp [extend, Argument.source?]

/-- One round: an argument and the comma after it, unless the input is at its end. -/
def round (P : Phrases) (acceptsSource : Bool) (a : Attachment) : Parser (Option Attachment) := do
  if ← atEnd then return none
  let next ← add a (← argument P acceptsSource)
  if !(← atEnd) then
    let _ ← op ","
  return some next

/-- All rounds start from no arguments. -/
theorem read_eq (ts : Tokens) (acceptsSource : Bool) :
    read ts acceptsSource
      = run (iterate (round (phrasesFor ts) acceptsSource) {}) ts := rfl

variable {P : Phrases} {acceptsSource : Bool} {a b : Attachment} {i j : Input}

/-- Between two inputs stands a comma, or they are the end. -/
def CommaOrEnd (i j : Input) : Prop :=
  (i.tokens = [] ∧ j = i) ∨ (i.tokens ≠ [] ∧ ∃ comma, op "," i = .ok (comma, j))

theorem optComma_eq_ok_iff {r : Option Attachment} :
    (do if !(← atEnd) then let _ ← op ","
        return some a : Parser (Option Attachment)) i = .ok (r, j)
      ↔ CommaOrEnd i j ∧ r = some a := by
  rw [bind_of_ok (show atEnd i = .ok (i.tokens.isEmpty, i) from rfl)]
  unfold CommaOrEnd
  cases hempty : i.tokens with
  | nil =>
      constructor
      · rintro ⟨⟩
        exact ⟨.inl ⟨rfl, rfl⟩, rfl⟩
      · rintro ⟨⟨-, rfl⟩ | ⟨hne, -⟩, rfl⟩
        · rfl
        · exact absurd rfl hne
  | cons t ts =>
      show (op "," >>= fun _ => pure (some a)) i = _ ↔ _
      rw [Parser.bind_eq_ok_iff]
      constructor
      · rintro ⟨comma, _, hcomma, ⟨⟩⟩
        exact ⟨.inr ⟨List.cons_ne_nil t ts, comma, hcomma⟩, rfl⟩
      · rintro ⟨⟨⟨⟩, -⟩ | ⟨-, comma, hcomma⟩, rfl⟩
        exact ⟨comma, j, hcomma, rfl⟩

/-- What a round can come to: nothing at the end of the input, and else one more argument
    is added. -/
theorem round_eq_ok_iff {r : Option Attachment} :
    round P acceptsSource a i = .ok (r, j)
      ↔ (i.tokens = [] ∧ r = none ∧ j = i)
        ∨ (i.tokens ≠ [] ∧ ∃ arg i' next, argument P acceptsSource i = .ok (arg, i')
          ∧ a.extend arg = .ok next ∧ CommaOrEnd i' j ∧ r = some next) := by
  unfold round
  rw [bind_of_ok (show atEnd i = .ok (i.tokens.isEmpty, i) from rfl)]
  cases hempty : i.tokens with
  | nil =>
      constructor
      · rintro ⟨⟩
        exact .inl ⟨rfl, rfl, rfl⟩
      · rintro (⟨-, rfl, rfl⟩ | ⟨hne, -⟩)
        · rfl
        · exact absurd rfl hne
  | cons t ts =>
      show (argument P acceptsSource >>= fun arg => add a arg >>= fun next =>
        (do if !(← atEnd) then let _ ← op ","
            return some next : Parser (Option Attachment))) i = _ ↔ _
      rw [Parser.bind_eq_ok_iff]
      constructor
      · rintro ⟨arg, i', harg, hrest⟩
        obtain ⟨next, i'', hadd, hrest⟩ := Parser.bind_eq_ok_iff.mp hrest
        rw [add_eq] at hadd
        obtain ⟨hcomma, hr⟩ := optComma_eq_ok_iff.mp hrest
        cases hextend : a.extend arg with
        | error e => rw [hextend] at hadd; cases hadd
        | ok found =>
            rw [hextend] at hadd
            cases hadd
            exact .inr ⟨List.cons_ne_nil t ts, arg, i', next, harg, hextend, hcomma, hr⟩
      · rintro (⟨⟨⟩, -⟩ | ⟨-, arg, i', next, harg, hextend, hcomma, hr⟩)
        refine ⟨arg, i', harg, ?_⟩
        rw [bind_of_ok (show add a arg i' = .ok (next, i') by rw [add_eq, hextend]; rfl)]
        exact optComma_eq_ok_iff.mpr ⟨hcomma, hr⟩

/-! ## Where no type to convert from is accepted -/

/-- The value of an argument, by its key. -/
def argumentValue (P : Phrases) (acceptsSource : Bool) (key : Ident) : Parser Argument :=
  if key.is "access" then do return .access (← levelOf (← P.expr true))
  else if key.is "from" && acceptsSource then do return .source key (← P.type)
  else failAt key.span (.unknownArgument key.display acceptsSource)

theorem argument_eq (P : Phrases) (acceptsSource : Bool) :
    argument P acceptsSource
      = name >>= fun key => op "=" >>= fun _ => argumentValue P acceptsSource key := rfl

/-- A value is a level, or a type to convert from where one is accepted. -/
theorem argumentValue_eq_ok_iff {key : Ident} {arg : Argument} :
    argumentValue P acceptsSource key i = .ok (arg, j)
      ↔ (key.is "access" = true ∧ ∃ e i' level, P.expr true i = .ok (e, i')
          ∧ levelOf e i' = .ok (level, j) ∧ arg = .access level)
        ∨ (key.is "from" = true ∧ acceptsSource = true
          ∧ ∃ ty, P.type i = .ok (ty, j) ∧ arg = .source key ty) := by
  unfold argumentValue
  by_cases haccess : key.is "access" = true
  · have hfrom : ¬key.is "from" = true := by
      rw [Ident.is, beq_iff_eq] at haccess ⊢
      rw [haccess]
      decide
    rw [if_pos haccess, Parser.bind_eq_ok_iff]
    constructor
    · rintro ⟨e, i', he, hlevel⟩
      obtain ⟨level, _, hlevel, ⟨⟩⟩ := Parser.bind_eq_ok_iff.mp hlevel
      exact .inl ⟨haccess, e, i', level, he, hlevel, rfl⟩
    · rintro (⟨-, e, i', level, he, hlevel, rfl⟩ | ⟨h, -⟩)
      · exact ⟨e, i', he, Parser.bind_eq_ok_iff.mpr ⟨level, j, hlevel, rfl⟩⟩
      · exact absurd h hfrom
  rw [if_neg haccess]
  by_cases hsource : (key.is "from" && acceptsSource) = true
  · obtain ⟨hfrom, haccepts⟩ := Bool.and_eq_true_iff.mp hsource
    rw [if_pos hsource, Parser.bind_eq_ok_iff]
    constructor
    · rintro ⟨ty, _, hty, ⟨⟩⟩
      exact .inr ⟨hfrom, haccepts, ty, hty, rfl⟩
    · rintro (⟨h, -⟩ | ⟨-, -, ty, hty, rfl⟩)
      · exact absurd h haccess
      · exact ⟨ty, j, hty, rfl⟩
  · rw [if_neg hsource]
    refine iff_of_false ?_ ?_
    · rintro ⟨⟩
    · rintro (⟨h, -⟩ | ⟨hfrom, haccepts, -⟩)
      · exact haccess h
      · exact hsource (Bool.and_eq_true_iff.mpr ⟨hfrom, haccepts⟩)

/-- An argument is read as where such a type is accepted, unless it is one. -/
theorem argument_false_iff {arg : Argument} :
    argument P false i = .ok (arg, j)
      ↔ argument P true i = .ok (arg, j) ∧ arg.source? = none := by
  have hvalue (key : Ident) (i : Input) : argumentValue P false key i = .ok (arg, j)
      ↔ argumentValue P true key i = .ok (arg, j) ∧ arg.source? = none := by
    rw [argumentValue_eq_ok_iff, argumentValue_eq_ok_iff]
    constructor
    · rintro (⟨haccess, e, i', level, he, hlevel, rfl⟩ | ⟨-, ⟨⟩, -⟩)
      exact ⟨.inl ⟨haccess, e, i', level, he, hlevel, rfl⟩, rfl⟩
    · rintro ⟨hlevel | ⟨-, -, ty, -, rfl⟩, hnone⟩
      · exact .inl hlevel
      · cases hnone
  -- the key and the sign after it are read alike
  rw [argument_eq, argument_eq, Parser.bind_eq_ok_iff, Parser.bind_eq_ok_iff]
  simp only [Parser.bind_eq_ok_iff, hvalue, ← and_assoc, exists_and_right]

/-- Where nothing was read to convert from, a round goes as where such a type is accepted,
    unless it reads one. -/
theorem round_false_iff (ha : a.source = none) {r : Option Attachment} :
    round P false a i = .ok (r, j)
      ↔ round P true a i = .ok (r, j) ∧ ∀ next, r = some next → next.source = none := by
  have hsource {arg : Argument} {next : Attachment} (h : a.extend arg = .ok next) :
      next.source = arg.source? := by
    obtain ⟨-, rfl⟩ := extend_eq_ok_iff.mp h
    rw [ha, Option.none_or]
  rw [round_eq_ok_iff, round_eq_ok_iff]
  constructor
  · rintro (⟨hend, rfl, rfl⟩ | ⟨hne, arg, i', next, harg, hextend, hcomma, rfl⟩)
    · exact ⟨.inl ⟨hend, rfl, rfl⟩, by rintro next ⟨⟩⟩
    · obtain ⟨harg, hnone⟩ := argument_false_iff.mp harg
      refine ⟨.inr ⟨hne, arg, i', next, harg, hextend, hcomma, rfl⟩, ?_⟩
      rintro _ ⟨⟩
      rw [hsource hextend, hnone]
  · rintro ⟨⟨hend, rfl, rfl⟩ | ⟨hne, arg, i', next, harg, hextend, hcomma, rfl⟩, hnone⟩
    · exact .inl ⟨hend, rfl, rfl⟩
    · have harg := argument_false_iff.mpr ⟨harg, (hsource hextend).symm.trans (hnone next rfl)⟩
      exact .inr ⟨hne, arg, i', next, harg, hextend, hcomma, rfl⟩

/-- A type to convert from that was read stays. -/
theorem isSome_source_of_iterateWithin {fuel : Nat} (ha : a.source.isSome = true)
    (h : iterateWithin (round P acceptsSource) fuel a i = .ok (b, j)) :
    b.source.isSome = true := by
  induction fuel generalizing a i with
  | zero => cases h
  | succ fuel ih =>
      obtain ⟨-, rfl⟩ | ⟨next, i', hround, hnext⟩ := iterateWithin_eq_ok_iff.mp h
      · exact ha
      · refine ih ?_ hnext
        obtain ⟨-, ⟨⟩, -⟩ | ⟨-, arg, _, _, -, hextend, -, ⟨⟩⟩ := round_eq_ok_iff.mp hround
        obtain ⟨-, rfl⟩ := extend_eq_ok_iff.mp hextend
        rw [Option.isSome_or, ha, Bool.true_or]

/-- All rounds go as where a type to convert from is accepted, unless one is read. -/
theorem iterateWithin_round_false_iff {fuel : Nat} (ha : a.source = none) :
    iterateWithin (round P false) fuel a i = .ok (b, j)
      ↔ iterateWithin (round P true) fuel a i = .ok (b, j) ∧ b.source = none := by
  induction fuel generalizing a i with
  | zero => exact iff_of_false (by rintro ⟨⟩) (by rintro ⟨⟨⟩, -⟩)
  | succ fuel ih =>
      rw [iterateWithin_eq_ok_iff, iterateWithin_eq_ok_iff]
      constructor
      · rintro (⟨hround, rfl⟩ | ⟨next, i', hround, hnext⟩)
        · obtain ⟨hround, -⟩ := (round_false_iff ha).mp hround
          exact ⟨.inl ⟨hround, rfl⟩, ha⟩
        · obtain ⟨hround, hnone⟩ := (round_false_iff ha).mp hround
          obtain ⟨hnext, hb⟩ := (ih (hnone next rfl)).mp hnext
          exact ⟨.inr ⟨next, i', hround, hnext⟩, hb⟩
      · rintro ⟨⟨hround, rfl⟩ | ⟨next, i', hround, hnext⟩, hb⟩
        · exact .inl ⟨(round_false_iff ha).mpr ⟨hround, by rintro next ⟨⟩⟩, rfl⟩
        · -- had this round read a type, it would still be there at the end
          have hnone : next.source = none := by
            cases hsource : next.source with
            | none => rfl
            | some ty =>
                have hkept := isSome_source_of_iterateWithin
                  (Option.isSome_iff_exists.mpr ⟨ty, hsource⟩) hnext
                rw [hb] at hkept
                cases hkept
          refine .inr ⟨next, i', (round_false_iff ha).mpr ⟨hround, ?_⟩, (ih hnone).mpr ⟨hnext, hb⟩⟩
          rintro _ ⟨⟩
          exact hnone

/-- Whole arguments are read as where a type to convert from is accepted, unless there is
    one. -/
theorem read_false_iff (ts : Tokens) (a : Attachment) :
    read ts false = .ok a ↔ read ts true = .ok a ∧ a.source = none := by
  rw [read_eq, read_eq, run_eq_ok_iff, run_eq_ok_iff]
  constructor
  · rintro ⟨rest, hread, hleft⟩
    obtain ⟨hread, hnone⟩ := (iterateWithin_round_false_iff rfl).mp hread
    exact ⟨⟨rest, hread, hleft⟩, hnone⟩
  · rintro ⟨⟨rest, hread, hleft⟩, hnone⟩
    exact ⟨rest, (iterateWithin_round_false_iff rfl).mpr ⟨hread, hnone⟩, hleft⟩

/-! ## Lists of arguments -/

/-- One argument as it is written: a key, and as its value a text, a name, or a type that
    is read up to what follows it. -/
inductive Written (P : Phrases) (rest : Tokens) : Tokens → Argument → Prop
  | text {key : Ident} {spacing : Spacing} {place here : Span} {literal word : String}
      (hkey : key.is "access" = true) (hword : Literal.ofText literal = .text word) :
      Written P rest [.ident key, .punct '=' spacing place, .literal literal here]
        (.access (AccessLevel.ofKeyword? word))
  | name {key : Ident} {spacing : Spacing} {place : Span} {word : Ident}
      (hkey : key.is "access" = true) (hword : Front.isName word = true) :
      Written P rest [.ident key, .punct '=' spacing place, .ident word]
        (.access (AccessLevel.ofKeyword? word.display))
  | source {key : Ident} {spacing : Spacing} {place : Span} {value : Tokens} {ty : Ty}
      (hkey : key.is "from" = true)
      (hvalue : P.type { tokens := value ++ rest } = .ok (ty, { tokens := rest })) :
      Written P rest (.ident key :: .punct '=' spacing place :: value) (.source key ty)

/-- Arguments with commas between them, and maybe one after the last. -/
inductive Listed (P : Phrases) : Tokens → List Argument → Prop
  | nil : Listed P [] []
  | last {ts : Tokens} {arg : Argument} (harg : Written P [] ts arg) : Listed P ts [arg]
  | cons {ts rest : Tokens} {arg : Argument} {args : List Argument} {spacing : Spacing}
      {place : Span} (harg : Written P (.punct ',' spacing place :: rest) ts arg)
      (hargs : Listed P rest args) :
      Listed P (ts ++ .punct ',' spacing place :: rest) (arg :: args)

theorem op_equals (spacing : Spacing) (place : Span) (ts : Tokens) :
    op "=" { tokens := .punct '=' spacing place :: ts }
      = .ok ([.punct '=' .alone place], { tokens := ts }) := rfl

theorem op_comma (spacing : Spacing) (place : Span) (ts : Tokens) :
    op "," { tokens := .punct ',' spacing place :: ts }
      = .ok ([.punct ',' .alone place], { tokens := ts }) := rfl

/-- The two keys are names, not keywords. -/
theorem isName_of_key {key : Ident} (h : key.is "access" = true ∨ key.is "from" = true) :
    Front.isName key = true := by
  unfold Front.isName
  simp only [Ident.is, beq_iff_eq] at h
  obtain h | h := h
  · rw [h]
    decide
  · rw [h]
    decide

theorem argument_of_key {key : Ident} (h : key.is "access" = true ∨ key.is "from" = true)
    (spacing : Spacing) (place : Span) (ts : Tokens) :
    argument P true { tokens := .ident key :: .punct '=' spacing place :: ts }
      = argumentValue P true key { tokens := ts } := by
  rw [argument_eq, bind_of_ok (name_of_isName (isName_of_key h) _), bind_of_ok (op_equals _ _ _)]

/-- An argument that is written is read, up to a comma or the end. -/
theorem argument_of_written {depth : Nat} {ts rest : Tokens} {arg : Argument}
    (hrest : rest.EndsValue) (h : Written (phrases (depth + 1)) rest ts arg) :
    argument (phrases (depth + 1)) true { tokens := ts ++ rest }
      = .ok (arg, { tokens := rest }) := by
  cases h with
  | text hkey hword =>
      refine (argument_of_key (.inl hkey) _ _ _).trans (argumentValue_eq_ok_iff.mpr ?_)
      exact .inl ⟨hkey, _, _, _, Phrases.expr_of_text hrest hword, rfl, rfl⟩
  | name hkey hword =>
      refine (argument_of_key (.inl hkey) _ _ _).trans (argumentValue_eq_ok_iff.mpr ?_)
      exact .inl ⟨hkey, _, _, _, Phrases.expr_of_name hrest hword, rfl, rfl⟩
  | source hkey hvalue =>
      refine (argument_of_key (.inr hkey) _ _ _).trans (argumentValue_eq_ok_iff.mpr ?_)
      exact .inr ⟨hkey, rfl, _, hvalue, rfl⟩

/-- A round on an argument comes to what adding it comes to. -/
theorem round_of_argument {arg : Argument} {i' : Input} (hne : i.tokens ≠ [])
    (harg : argument P acceptsSource i = .ok (arg, i')) (hcomma : CommaOrEnd i' j) :
    round P acceptsSource a i = (a.extend arg).map fun next => (some next, j) := by
  cases hextend : a.extend arg with
  | ok next => exact round_eq_ok_iff.mpr (.inr ⟨hne, arg, i', next, harg, hextend, hcomma, rfl⟩)
  | error e =>
      have hadd : add a arg i' = .error e := by
        rw [add_eq, hextend]
        rfl
      unfold round
      rw [bind_of_ok (show atEnd i = .ok (i.tokens.isEmpty, i) from rfl),
        List.isEmpty_eq_false_iff.mpr hne]
      exact (bind_of_ok harg).trans (bind_of_error hadd)

/-- The rounds on an argument and what follows it. -/
theorem iterateWithin_of_argument {fuel : Nat} {arg : Argument} {i' : Input} (hne : i.tokens ≠ [])
    (harg : argument P acceptsSource i = .ok (arg, i')) (hcomma : CommaOrEnd i' j) :
    iterateWithin (round P acceptsSource) (fuel + 1) a i
      = a.extend arg >>= fun next => iterateWithin (round P acceptsSource) fuel next j := by
  have hround := round_of_argument (a := a) hne harg hcomma
  cases hextend : a.extend arg with
  | ok next =>
      rw [hextend] at hround
      exact iterateWithin_of_some hround
  | error e =>
      rw [hextend] at hround
      exact bind_of_error hround

/-- At the end of the input the rounds are over. -/
theorem iterateWithin_of_end {fuel : Nat} :
    iterateWithin (round P acceptsSource) (fuel + 1) a { tokens := [] }
      = .ok (a, { tokens := [] }) :=
  iterateWithin_of_none rfl

theorem Written.ne_nil {ts rest : Tokens} {arg : Argument} (h : Written P rest ts arg) :
    ts ≠ [] := by
  cases h <;> exact List.cons_ne_nil _ _

/-- The rounds on a list of arguments add them one after another. -/
theorem iterateWithin_of_listed {depth : Nat} {ts : Tokens} {args : List Argument}
    (h : Listed (phrases (depth + 1)) ts args) {fuel : Nat} (hfuel : args.length < fuel) :
    iterateWithin (round (phrases (depth + 1)) true) fuel a { tokens := ts }
      = (args.foldlM extend a).map fun b => (b, { tokens := [] }) := by
  -- a round for each argument, and one that finds the end
  induction h generalizing a fuel with
  | nil =>
      obtain ⟨fuel, rfl⟩ := Nat.exists_eq_succ_of_ne_zero (Nat.ne_of_gt hfuel)
      exact iterateWithin_of_end
  | @last ts arg harg =>
      obtain ⟨fuel, rfl⟩ : ∃ more, fuel = more + 1 + 1 := Nat.exists_eq_add_of_le' hfuel
      have hread := argument_of_written (.inl rfl) harg
      rw [List.append_nil] at hread
      rw [iterateWithin_of_argument harg.ne_nil hread (.inl ⟨rfl, rfl⟩), List.foldlM_cons]
      cases a.extend arg with
      | error e => rfl
      | ok next =>
          show iterateWithin (round (phrases (depth + 1)) true) (fuel + 1) next { tokens := [] } = _
          exact iterateWithin_of_end
  | @cons ts rest arg args spacing place harg hargs ih =>
      obtain ⟨fuel, rfl⟩ := Nat.exists_eq_succ_of_ne_zero (Nat.ne_of_gt (Nat.zero_lt_of_lt hfuel))
      have hread := argument_of_written (.inr ⟨spacing, place, rest, rfl⟩) harg
      have hcomma : CommaOrEnd { tokens := .punct ',' spacing place :: rest } { tokens := rest } :=
        .inr ⟨List.cons_ne_nil _ _, _, op_comma spacing place rest⟩
      rw [iterateWithin_of_argument (by simp) hread hcomma, List.foldlM_cons]
      cases a.extend arg with
      | error e => rfl
      | ok next => exact ih (Nat.lt_of_succ_lt_succ hfuel)

theorem Listed.length_le {ts : Tokens} {args : List Argument} (h : Listed P ts args) :
    args.length ≤ ts.length := by
  induction h with
  | nil => exact Nat.le_refl _
  | last harg => exact List.length_pos_iff.mpr harg.ne_nil
  | cons harg hargs ih =>
      rw [List.length_cons, List.length_append, List.length_cons]
      omega

/-- **A list of arguments is read as one fold.**  Each argument is added to what was read
    before it, and nothing else can fail. -/
theorem read_of_listed {ts : Tokens} {args : List Argument} (h : Listed (phrasesFor ts) ts args) :
    read ts true = args.foldlM extend {} := by
  have hfuel : args.length < Token.sizes ts + 1 :=
    Nat.lt_succ_of_le (h.length_le.trans (length_le_sizes ts))
  have hrounds : iterate (round (phrasesFor ts) true) {} { tokens := ts }
      = (args.foldlM extend {}).map fun b => (b, { tokens := [] }) :=
    iterateWithin_of_listed h hfuel
  rw [read_eq, run, hrounds]
  cases args.foldlM extend {} with
  | error e => rfl
  | ok b => rfl

/-! ## What a list of arguments says -/

/-- Arguments can be added exactly if there is at most one type to convert from.  It is
    kept, and so is the last level. -/
theorem foldlM_extend_eq_ok_iff {args : List Argument} :
    args.foldlM extend a = .ok b
      ↔ a.source.toList.length + (args.filterMap Argument.source?).length ≤ 1
        ∧ b = { access := (args.filterMap Argument.level?).getLast?.getD a.access
                source := a.source.or (args.filterMap Argument.source?).head? } := by
  obtain ⟨access, source⟩ := a
  induction args generalizing access source with
  | nil =>
      have hone : source.toList.length ≤ 1 := Option.length_toList_le
      simp [pure, Except.pure, hone, eq_comm]
  | cons arg args ih =>
      rw [List.foldlM_cons]
      cases arg with
      | access level =>
          have hlevels : (Argument.access level :: args).filterMap Argument.level?
              = level :: args.filterMap Argument.level? := rfl
          rw [hlevels, List.getLast?_cons]
          exact ih level source
      | source key ty =>
          cases source with
          | none =>
              have hsources : (Argument.source key ty :: args).filterMap Argument.source?
                  = ty :: args.filterMap Argument.source? := rfl
              rw [hsources, List.length_cons, Nat.add_comm (List.length _) 1, ← Nat.add_assoc]
              exact ih access (some ty)
          | some old =>
              refine iff_of_false ?_ ?_
              · rintro ⟨⟩
              · rintro ⟨hcount, -⟩
                simp only [Argument.source?, Option.toList_some, List.length_cons,
                  List.filterMap_cons] at hcount
                omega

/-- The second type to convert from is refused at its key. -/
theorem foldlM_extend_of_second {before after : List Argument} {key : Ident} {ty : Ty}
    (h : (before.filterMap Argument.source?).length = 1) :
    (before ++ .source key ty :: after).foldlM extend {}
      = .error (.fault { cause := .duplicateSource, span := key.span }) := by
  obtain ⟨old, hold⟩ := List.length_eq_one_iff.mp h
  have hbefore : before.foldlM extend {}
      = .ok { access := (before.filterMap Argument.level?).getLast?.getD none
              source := (before.filterMap Argument.source?).head? } :=
    foldlM_extend_eq_ok_iff.mpr ⟨by simp [h], rfl⟩
  rw [List.foldlM_append, hbefore, hold]
  rfl

end Attachment

namespace Sample

open Attachment

/-- One argument, its key at a place. -/
def argumentAt (place : Span) (key : String) (value : Tokens) : Tokens :=
  .ident { text := key, span := place } :: .punct '=' .alone .callSite :: value

def comma : Token := .punct ',' .alone .callSite

/-- A type with a comma in it: `Pair<Id, Dto>`. -/
def pairType : Tokens :=
  [.word "Pair", .punct '<' .alone .callSite, .word "Id", comma, .word "Dto",
    .punct '>' .alone .callSite]

/-- `access = "public", from = Pair<Id, Dto>, access = nobody,` -/
def levelTwice : Tokens :=
  argumentAt .callSite "access" [.ofLiteral "\"public\""] ++ comma ::
    (argumentAt .callSite "from" pairType ++ comma ::
      (argumentAt .callSite "access" [.word "nobody"] ++ comma :: []))

/-- `from = Pair<Id, Dto>, access = "internal", from = Dto` -/
def sourceTwice : Tokens :=
  argumentAt (.source 0 4) "from" pairType ++ comma ::
    (argumentAt (.source 23 29) "access" [.ofLiteral "\"internal\""] ++ comma ::
      argumentAt (.source 44 48) "from" [.word "Dto"])

end Sample

end DeclMacros
