/-
This file holds the small facts about outcomes that everything else is taken apart with. An outcome
that is made of others succeeds only if those do (`bind_eq_ok`, `map_eq_ok`), and a list is read if
every item is (`exists_mapM_iff`); it fails as the first item that fails (`mapM_eq_error_iff`).
-/

import Mathlib.Data.List.Forall2

namespace WorkQuery

variable {Fault Fault' Content Result : Type}

/-! ### Single outcomes -/

theorem bind_eq_ok {outcome : Except Fault Content}
    {continuation : Content → Except Fault Result} {result : Result} :
    outcome >>= continuation = .ok result ↔
      ∃ content, outcome = .ok content ∧ continuation content = .ok result := by
  cases outcome with
  | error fault => exact ⟨nofun, nofun⟩
  | ok content =>
    refine ⟨fun same => ⟨content, rfl, same⟩, ?_⟩
    rintro ⟨_, same, continued⟩
    exact Except.ok.inj same ▸ continued

theorem bind_eq_error {outcome : Except Fault Content}
    {continuation : Content → Except Fault Result} {fault : Fault} :
    outcome >>= continuation = .error fault ↔
      outcome = .error fault ∨
        ∃ content, outcome = .ok content ∧ continuation content = .error fault := by
  cases outcome with
  | error fault' =>
    constructor
    · exact fun same => .inl (congrArg Except.error (Except.error.inj same))
    · rintro (same | ⟨_, absurd, -⟩)
      · exact congrArg Except.error (Except.error.inj same)
      · cases absurd
  | ok content =>
    constructor
    · exact fun same => .inr ⟨content, rfl, same⟩
    · rintro (absurd | ⟨_, same, fails⟩)
      · cases absurd
      · exact Except.ok.inj same ▸ fails

theorem ok_bind (content : Content) (continuation : Content → Except Fault Result) :
    (Except.ok content >>= continuation) = continuation content := rfl

theorem map_eq_ok {outcome : Except Fault Content} {function : Content → Result}
    {result : Result} :
    outcome.map function = .ok result ↔
      ∃ content, outcome = .ok content ∧ function content = result := by
  cases outcome with
  | error fault => exact ⟨nofun, nofun⟩
  | ok content =>
    refine ⟨fun same => ⟨content, rfl, Except.ok.inj same⟩, ?_⟩
    rintro ⟨_, same, applied⟩
    exact congrArg Except.ok (Except.ok.inj same ▸ applied)

theorem mapError_eq_ok {outcome : Except Fault Content} {function : Fault → Fault'}
    {content : Content} : outcome.mapError function = .ok content ↔ outcome = .ok content := by
  cases outcome with
  | error fault => exact ⟨nofun, nofun⟩
  | ok content' => exact ⟨fun same => congrArg Except.ok (Except.ok.inj same),
    fun same => congrArg Except.ok (Except.ok.inj same)⟩

theorem eq_ok_of_toOption {outcome : Except Fault Content} {content : Content}
    (found : outcome.toOption = some content) : outcome = .ok content := by
  cases outcome with
  | error fault => cases found
  | ok content' => exact congrArg Except.ok (Option.some.inj found)

/-! ### Lists of outcomes -/

theorem forall₂_mapM {function : Content → Except Fault Result} {contents : List Content}
    {results : List Result}
    (read : contents.mapM function = .ok results) :
    List.Forall₂ (fun content result => function content = .ok result) contents results := by
  induction contents generalizing results with
  | nil =>
    obtain rfl : [] = results := Except.ok.inj read
    exact .nil
  | cons content contents inductionHypothesis =>
    rw [List.mapM_cons] at read
    obtain ⟨result, first, read⟩ := bind_eq_ok.mp read
    obtain ⟨others, rest, same⟩ := bind_eq_ok.mp read
    obtain rfl : result :: others = results := Except.ok.inj same
    exact .cons first (inductionHypothesis rest)

theorem forall_mem_of_mapM {function : Content → Except Fault Result} {property : Result → Prop}
    (each : ∀ content result, function content = .ok result → property result)
    {contents : List Content} {results : List Result}
    (read : contents.mapM function = .ok results) : ∀ result ∈ results, property result := by
  have related := forall₂_mapM read
  clear read
  induction related with
  | nil => exact List.forall_mem_nil _
  | cons first _ inductionHypothesis =>
    exact List.forall_mem_cons.mpr ⟨each _ _ first, inductionHypothesis⟩

theorem mapM_of_forall₂ {function : Content → Except Fault Result} {contents : List Content}
    {results : List Result}
    (read : List.Forall₂ (fun content result => function content = .ok result) contents results) :
    contents.mapM function = .ok results := by
  induction read with
  | nil => rfl
  | cons first _ inductionHypothesis =>
    rw [List.mapM_cons, first, inductionHypothesis]
    rfl

/-- A list is read with a property if every item is. -/
theorem exists_mapM_iff {function : Content → Except Fault Result} {property : Result → Prop}
    {contents : List Content} :
    (∃ results, contents.mapM function = .ok results ∧ ∀ result ∈ results, property result) ↔
      ∀ content ∈ contents, ∃ result, function content = .ok result ∧ property result := by
  induction contents with
  | nil => exact iff_of_true ⟨[], rfl, List.forall_mem_nil _⟩ (List.forall_mem_nil _)
  | cons content contents inductionHypothesis =>
    rw [List.forall_mem_cons, ← inductionHypothesis]
    constructor
    · rintro ⟨results, read, holds⟩
      rw [List.mapM_cons] at read
      obtain ⟨result, first, read⟩ := bind_eq_ok.mp read
      obtain ⟨others, rest, same⟩ := bind_eq_ok.mp read
      obtain rfl : result :: others = results := Except.ok.inj same
      rw [List.forall_mem_cons] at holds
      exact ⟨⟨result, first, holds.1⟩, others, rest, holds.2⟩
    · rintro ⟨⟨result, first, holds⟩, others, rest, hold⟩
      refine ⟨result :: others, ?_, List.forall_mem_cons.mpr ⟨holds, hold⟩⟩
      rw [List.mapM_cons, first, rest]
      rfl

theorem mapM_cons_eq_error {function : Content → Except Fault Result} {first : Content}
    {contents : List Content} {fault : Fault} :
    (first :: contents).mapM function = .error fault ↔
      function first = .error fault ∨
        ∃ result, function first = .ok result ∧ contents.mapM function = .error fault := by
  rw [List.mapM_cons, bind_eq_error]
  refine or_congr_right (exists_congr fun result => and_congr_right fun _ => ?_)
  rw [bind_eq_error]
  refine or_iff_left ?_
  rintro ⟨results, -, pure⟩
  cases pure

/-- A list fails as the first of its items that fails. -/
theorem mapM_eq_error_iff {function : Content → Except Fault Result} {contents : List Content}
    {fault : Fault} :
    contents.mapM function = .error fault ↔
      ∃ before content after, contents = before ++ content :: after ∧
        (∀ earlier ∈ before, ∃ result, function earlier = .ok result) ∧
        function content = .error fault := by
  induction contents with
  | nil =>
    refine iff_of_false nofun ?_
    rintro ⟨before, content, after, same, -⟩
    exact absurd same.symm (List.append_ne_nil_of_right_ne_nil _ (List.cons_ne_nil _ _))
  | cons first contents inductionHypothesis =>
    rw [mapM_cons_eq_error, inductionHypothesis]
    constructor
    · rintro (fails | ⟨result, read, before, content, after, rfl, fine, fails⟩)
      · exact ⟨[], first, contents, rfl, List.forall_mem_nil _, fails⟩
      · exact ⟨first :: before, content, after, rfl,
          List.forall_mem_cons.mpr ⟨⟨result, read⟩, fine⟩, fails⟩
    · rintro ⟨before, content, after, same, fine, fails⟩
      cases before with
      | nil =>
        obtain ⟨rfl, -⟩ := List.cons.inj same
        exact .inl fails
      | cons earlier before =>
        obtain ⟨rfl, rfl⟩ := List.cons.inj same
        obtain ⟨⟨result, read⟩, fine⟩ := List.forall_mem_cons.mp fine
        exact .inr ⟨result, read, before, content, after, rfl, fine, fails⟩

theorem mapM_isOk_iff {function : Content → Except Fault Result} {contents : List Content} :
    (∃ results, contents.mapM function = .ok results) ↔
      ∀ content ∈ contents, ∃ result, function content = .ok result := by
  simpa using @exists_mapM_iff _ _ _ function (fun _ => True) contents

end WorkQuery
