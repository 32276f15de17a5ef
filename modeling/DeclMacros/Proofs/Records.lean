import DeclMacros.Meaning.Struct
import DeclMacros.Proofs.Reading

/-! # Records, made by literals and changed by setters

    Generated code makes a record by a literal, whose fields come from a list of
    things with a key each, and changes it by setters.  This file follows such a
    record: a literal gives the record of all values, or the first failure in
    declaration order (`literalValue_eq`), and a sequence of calls leaves in
    each field the last value that was passed for it (`callAll_entries`).

    Both are stated for any list with keys, since a builder walks its own fields
    and a constructor its parameters. -/

set_option autoImplicit false

namespace DeclMacros

/-! ## Related lists -/

section Related

variable {α β γ : Type}

/-- Functions that agree on related elements give the same of two related
    lists. -/
theorem map_congr_of_forall₂ {R : α → β → Prop} {f : α → γ} {g : β → γ}
    (hfg : ∀ x y, R x y → f x = g y) {xs : List α} {ys : List β} (h : List.Forall₂ R xs ys) :
    xs.map f = ys.map g := by
  induction h with
  | nil => rfl
  | cons hxy _ ih => rw [List.map_cons, List.map_cons, hfg _ _ hxy, ih]

/-- Tests that agree on related elements find nothing in two related lists, or
    find related elements. -/
theorem find?_of_forall₂ {R : α → β → Prop} {test : α → Bool} {test' : β → Bool}
    (htest : ∀ x y, R x y → test x = test' y) {xs : List α} {ys : List β}
    (h : List.Forall₂ R xs ys) :
    (xs.find? test = none ∧ ys.find? test' = none)
      ∨ ∃ x y, xs.find? test = some x ∧ ys.find? test' = some y ∧ R x y := by
  induction h with
  | nil => exact .inl ⟨rfl, rfl⟩
  | @cons x y xs ys hxy _ ih =>
      rw [List.find?_cons, List.find?_cons, htest x y hxy]
      cases test' y with
      | true => exact .inr ⟨x, y, rfl, rfl, hxy⟩
      | false => exact ih

/-- A list all of whose elements are kept is related to what is kept. -/
theorem forall₂_filterMap {f : α → Option β} {xs : List α}
    (h : ∀ x ∈ xs, (f x).isSome = true) :
    List.Forall₂ (fun x y => f x = some y) xs (xs.filterMap f) := by
  induction xs with
  | nil => exact .nil
  | cons x xs ih =>
      obtain ⟨y, hy⟩ := Option.isSome_iff_exists.mp (h x (List.mem_cons_self ..))
      rw [List.filterMap_cons_some hy]
      exact .cons hy (ih fun z hz => h z (List.mem_cons_of_mem x hz))

end Related

/-! ## Literals -/

section Keyed

variable {α : Type} {key : α → String} {xs : List α}

/-- An element is the one found under its key, if keys differ. -/
theorem find?_key (hkeys : (xs.map key).Nodup) {x : α} (hx : x ∈ xs) :
    xs.find? (fun y => key y = key x) = some x := by
  cases hfound : xs.find? (fun y => key y = key x) with
  | none =>
      have hne := List.find?_eq_none.mp hfound x hx
      exact absurd (decide_eq_true rfl) hne
  | some y =>
      have hkey : key y = key x := by simpa using List.find?_some hfound
      have hy := List.mem_of_find?_eq_some hfound
      rw [List.inj_on_of_nodup_map hkeys hy hx hkey]

/-- The fields of a record: a value under each key. -/
def entries (key : α → String) (val : α → Value) (xs : List α) : List (String × Value) :=
  xs.map fun x => (key x, val x)

/-- The fields that carry no data. -/
def phantomEntries (names : List Ident) : List (String × Value) :=
  names.map fun name => (name.text, .phantom)

/-- A field is read back from its record, whatever other fields follow. -/
theorem field?_entries (hkeys : (xs.map key).Nodup) {x : α} (hx : x ∈ xs) (name : String)
    (val : α → Value) (tail : List (String × Value)) :
    (Value.record name (entries key val xs ++ tail)).field? (key x) = some (val x) := by
  show (entries key val xs ++ tail).lookup (key x) = some (val x)
  induction xs with
  | nil => exact nomatch hx
  | cons y ys ih =>
      rw [List.map_cons, List.nodup_cons] at hkeys
      show List.lookup (key x) ((key y, val y) :: (entries key val ys ++ tail)) = _
      rcases List.mem_cons.mp hx with rfl | hlater
      · exact List.lookup_cons_self
      · have hne : (key x == key y) = false := by
          rw [beq_eq_false_iff_ne]
          intro heq
          exact hkeys.1 (heq ▸ List.mem_map_of_mem hlater)
        rw [List.lookup_cons, hne]
        exact ih hkeys.2 hlater

variable (key) in
/-- What is bound to the keys of a list one by one is found under each key, and
    was bound to an element with that key. -/
theorem exists_lookup_zip {args : List Value} (hlength : args.length = xs.length) {x : α}
    (hx : x ∈ xs) :
    ∃ y v, ((xs.map key).zip args).lookup (key x) = some v ∧ (y, v) ∈ xs.zip args
      ∧ key y = key x := by
  induction xs generalizing args with
  | nil => exact nomatch hx
  | cons y ys ih =>
      cases args with
      | nil => exact nomatch hlength
      | cons v vs =>
          rw [List.map_cons, List.zip_cons_cons, List.zip_cons_cons, List.lookup_cons]
          by_cases hkey : key x = key y
          · refine ⟨y, v, ?_, List.mem_cons_self .., hkey.symm⟩
            rw [beq_iff_eq.mpr hkey]
          · have hlater : x ∈ ys := by
              rcases List.mem_cons.mp hx with rfl | hmem
              · exact absurd rfl hkey
              · exact hmem
            obtain ⟨z, w, hlookup, hmem, hz⟩ := ih (Nat.succ.inj hlength) hlater
            refine ⟨z, w, ?_, List.mem_cons_of_mem _ hmem, hz⟩
            rw [beq_eq_false_iff_ne.mpr hkey]
            exact hlookup

/-- A list is read up to its first failure. -/
theorem mapM_eq_find? {ε β : Type} {f : α → Except ε β} {fails : α → Bool} {e : α → ε}
    {g : α → β} (h : ∀ x ∈ xs, f x = if fails x then .error (e x) else .ok (g x)) :
    xs.mapM f = match xs.find? fails with
      | some x => .error (e x)
      | none => .ok (xs.map g) := by
  induction xs with
  | nil => rfl
  | cons x xs ih =>
      have hx := h x (List.mem_cons_self ..)
      rw [List.mapM_cons, hx, List.find?_cons]
      cases fails x with
      | true => rfl
      | false =>
          rw [ih fun y hy => h y (List.mem_cons_of_mem x hy)]
          cases xs.find? fails <;> rfl

/-- The record that a literal makes from a list with keys, or its first failure
    in the order of the list. -/
theorem literalValue_eq {s : Surroundings} {frame : Frame} {init : α → FieldInit}
    {fails : α → Bool} {e : α → Halt} {val : α → Value}
    (h : ∀ x ∈ xs, (init x).eval s frame
      = if fails x then .error (e x) else .ok (key x, val x)) (name : Ident)
    (phantoms : List Ident) :
    literalValue s frame name (xs.map init ++ phantomInits phantoms)
      = match xs.find? fails with
        | some x => .error (e x)
        | none => .ok (.record name.text (entries key val xs ++ phantomEntries phantoms)) := by
  have hphantoms : (phantomInits phantoms).mapM (FieldInit.eval s frame)
      = .ok (phantomEntries phantoms) := by
    rw [phantomInits, List.mapM_map]
    exact List.mapM_pure
  have hfields : xs.mapM (FieldInit.eval s frame ∘ init) = _ := mapM_eq_find? h
  rw [literalValue, List.mapM_append, List.mapM_map, hphantoms, hfields]
  cases xs.find? fails <;> rfl

/-- The record that a literal makes when none of its fields fails. -/
theorem literalValue_ok {s : Surroundings} {frame : Frame} {init : α → FieldInit}
    {val : α → Value} (h : ∀ x ∈ xs, (init x).eval s frame = .ok (key x, val x)) (name : Ident)
    (phantoms : List Ident) :
    literalValue s frame name (xs.map init ++ phantomInits phantoms)
      = .ok (.record name.text (entries key val xs ++ phantomEntries phantoms)) := by
  have hnever : ∀ x ∈ xs, (init x).eval s frame
      = if false then .error (.undefined "") else .ok (key x, val x) := h
  rw [literalValue_eq hnever, List.find?_eq_none.mpr (fun _ _ => Bool.false_ne_true)]

/-! ## Setters -/

/-- A setter changes the field of one key, and none of the fields that follow. -/
theorem setField_entries {tail : List (String × Value)} {k : String}
    (htail : ∀ e ∈ tail, e.1 ≠ k) (name : String) (val : α → Value) (v : Value) :
    (Value.record name (entries key val xs ++ tail)).setField k v
      = .record name (entries key (fun x => if key x = k then v else val x) xs ++ tail) := by
  have hsame : tail.map (fun e => if e.1 = k then (e.1, v) else e) = tail := by
    conv_rhs => rw [← List.map_id tail]
    refine List.map_congr_left ?_
    intro e he
    exact if_neg (htail e he)
  show Value.record name (List.map _ (_ ++ tail)) = _
  rw [List.map_append, hsame, entries, entries, List.map_map]
  congr 2
  refine List.map_congr_left ?_
  intro x _
  show (if key x = k then (key x, v) else (key x, val x)) = _
  split <;> rfl

/-- The last value that is passed under a name. -/
def lastPassed (calls : List (String × Value)) (name : String) : Option Value :=
  ((calls.filter fun c => c.1 = name).getLast?).map Prod.snd

/-- A later call comes before an earlier one. -/
theorem lastPassed_cons (call : String × Value) (rest : List (String × Value)) (name : String) :
    lastPassed (call :: rest) name
      = (lastPassed rest name).or (if call.1 = name then some call.2 else none) := by
  rw [lastPassed, lastPassed, List.filter_cons]
  by_cases hname : call.1 = name
  · rw [if_pos (decide_eq_true hname), if_pos hname, List.getLast?_cons]
    cases (rest.filter fun c => c.1 = name).getLast? <;> rfl
  · rw [if_neg (by simpa using hname), if_neg hname, Option.or_none]

/-- Nothing is passed last exactly when nothing is passed. -/
theorem lastPassed_eq_none_iff {calls : List (String × Value)} {name : String} :
    lastPassed calls name = none ↔ ∀ c ∈ calls, c.1 ≠ name := by
  rw [lastPassed, Option.map_eq_none_iff, List.getLast?_eq_none_iff, List.filter_eq_nil_iff]
  simp only [decide_eq_true_eq, ne_eq]

/-- Calls that are left out do not matter to a name that keeps all of its calls. -/
theorem lastPassed_filter {calls : List (String × Value)} {kept : String × Value → Bool}
    {name : String} (h : ∀ c ∈ calls, c.1 = name → kept c = true) :
    lastPassed (calls.filter kept) name = lastPassed calls name := by
  rw [lastPassed, lastPassed, List.filter_filter]
  congr 2
  refine List.filter_congr ?_
  intro c hc
  by_cases hname : c.1 = name
  · rw [h c hc hname, Bool.and_true]
  · rw [decide_eq_false hname, Bool.false_and]

/-- What a field holds after calls: the last value passed, wrapped if the setter
    wraps, else what it held. -/
def heldAfter (calls : List (String × Value)) (name : String) (wraps : Bool) (before : Value) :
    Value :=
  match lastPassed calls name with
  | some v => if wraps then .present v else v
  | none => before

/-- The effect of the first call is what the other calls find. -/
theorem heldAfter_cons (call : String × Value) (rest : List (String × Value)) (name : String)
    (wraps : Bool) (before : Value) :
    heldAfter (call :: rest) name wraps before
      = heldAfter rest name wraps
          (if name = call.1 then (if wraps then .present call.2 else call.2) else before) := by
  rw [heldAfter, heldAfter, lastPassed_cons]
  cases lastPassed rest name with
  | some v => rfl
  | none =>
      by_cases hname : call.1 = name
      · rw [if_pos hname, if_pos hname.symm]
        rfl
      · rw [if_neg hname, if_neg (Ne.symm hname)]
        rfl

variable (key) in
/-- **The last value wins.**  Setters are called under names made from keys of a
    record; then every field holds what the calls leave in it, and the fields
    that follow are untouched. -/
theorem callAll_entries (call : String → String) {setters : List Setter} {wraps : α → Bool}
    {tail calls : List (String × Value)}
    (hsetters : ∀ c ∈ calls, ∃ t, setters.find? (fun t => t.name.text = call c.1) = some t
      ∧ t.field.text = c.1 ∧ ∀ x ∈ xs, key x = c.1 → t.wraps = wraps x)
    (htail : ∀ c ∈ calls, ∀ e ∈ tail, e.1 ≠ c.1) (name : String) (val : α → Value) :
    Setter.callAll setters (calls.map fun c => (call c.1, c.2))
        (.record name (entries key val xs ++ tail))
      = .ok (.record name
          (entries key (fun x => heldAfter calls (key x) (wraps x) (val x)) xs ++ tail)) := by
  induction calls generalizing val with
  | nil => rfl
  | cons c rest ih =>
      obtain ⟨t, ht, hfield, hwraps⟩ := hsetters c (List.mem_cons_self ..)
      have hstep : Setter.call setters (call c.1) (.record name (entries key val xs ++ tail)) c.2
          = .ok (.record name (entries key (fun x => if key x = c.1 then
              (if t.wraps then .present c.2 else c.2) else val x) xs ++ tail)) := by
        rw [Setter.call, ht]
        show Except.ok (Setter.set t _ _) = _
        rw [Setter.set, hfield, setField_entries (htail c (List.mem_cons_self ..))]
      rw [List.map_cons, Setter.callAll, hstep]
      show Setter.callAll setters _ _ = _
      rw [ih (fun d hd => hsetters d (List.mem_cons_of_mem c hd))
        (fun d hd => htail d (List.mem_cons_of_mem c hd))]
      congr 3
      refine List.map_congr_left ?_
      intro x hx
      show (key x, heldAfter rest _ _ _) = (key x, heldAfter (c :: rest) _ _ _)
      rw [heldAfter_cons]
      by_cases hkey : key x = c.1
      · rw [if_pos hkey, if_pos hkey, hwraps x hx hkey]
      · rw [if_neg hkey, if_neg hkey]

end Keyed

end DeclMacros
