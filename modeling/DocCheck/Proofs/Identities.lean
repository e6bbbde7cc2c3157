import DocCheck.Proofs.Dependence
import DocCheck.Proofs.FindingOrder
import DocCheck.Proofs.NumberRoundTrip

/-!
# Identities by position

A directive without a name is known by the name of its symbol and its
position.  The two are joined by a sign that the name of a symbol may have as
well, but decimals have none, so it is the last sign that joins them.  In a
run over symbols with distinct names every directive without a name therefore
has an identity of its own, also when it has a fault.
-/

namespace DocCheck

namespace Identity

/-- The digits of the position stand behind the last joining sign. -/
theorem cutAtLast?_positional (symbol : String) (ordinal : Nat) :
    cutAtLast? '#' (positional symbol ordinal).name.toList =
      some (symbol.toList, digitsOf ordinal) := by
  have noSign : '#' ∉ digitsOf ordinal := by
    intro member
    have digit := isDigit_iff.mpr (isDigit_of_mem_digitsOf member)
    exact absurd digit (by decide)
  have joined : (positional symbol ordinal).name.toList =
      symbol.toList ++ '#' :: digitsOf ordinal := by
    simp [positional, digitsOf]
  rw [joined, cutAtLast?_append symbol.toList noSign]

/-- The symbol and the position can be read off an identity. -/
theorem positional_inj {symbol other : String} {ordinal otherOrdinal : Nat} :
    positional symbol ordinal = positional other otherOrdinal ↔
      symbol = other ∧ ordinal = otherOrdinal := by
  constructor
  · intro same
    have cut := cutAtLast?_positional symbol ordinal
    rw [same, cutAtLast?_positional] at cut
    obtain ⟨sameName, sameDigits⟩ := Prod.mk.inj (Option.some.inj cut)
    refine ⟨String.toList_injective sameName.symm, ?_⟩
    rw [← valueOfDigits_digitsOf ordinal, ← sameDigits,
      valueOfDigits_digitsOf]
  · rintro ⟨rfl, rfl⟩
    rfl

end Identity

namespace Directive

theorem nodup_ordinal_ofComment (arity : Nat) (comment : String) :
    ((ofComment arity comment).map Directive.ordinal).Nodup := by
  rw [ofComment, ordinal_ofLines]
  exact List.nodup_range'

theorem identity_of_unnamed {directive : Directive}
    (unnamed : directive.name? = none) (symbol : String) :
    directive.identity symbol =
      Identity.positional symbol directive.ordinal := by
  rw [identity, unnamed]

end Directive

namespace Checker

/-- The directives that a run lets through, in the order of the run, each
with what the run finds about it. -/
def judgements (checker : Checker) (symbols : List Symbol) :
    List (Directive × Finding) :=
  symbols.flatMap fun symbol =>
    ((Directive.ofComment symbol.arity symbol.comment).filter
      (checker.selects symbol)).map fun directive =>
        (directive, checker.judge symbol
          (Documentation.ofComment symbol.arity symbol.comment) directive)

theorem map_snd_judgements (checker : Checker) (symbols : List Symbol) :
    (checker.judgements symbols).map Prod.snd =
      (checker.checkAll symbols).reports.flatMap Report.findings := by
  rw [checkAll, Summary.reports_ofReports, List.flatMap_map, judgements,
    List.map_flatMap]
  refine congrArg (List.flatMap · symbols) (funext fun symbol => ?_)
  rw [findings_check, List.map_map]
  rfl

/-- The positions of the directives of a symbol that the filter lets through
and that have no name. -/
def unnamedPositions (checker : Checker) (symbol : Symbol) : List Nat :=
  (((Directive.ofComment symbol.arity symbol.comment).filter
    (checker.selects symbol)).filter fun directive =>
      directive.name? = none).map Directive.ordinal

theorem nodup_unnamedPositions (checker : Checker) (symbol : Symbol) :
    (checker.unnamedPositions symbol).Nodup :=
  (Directive.nodup_ordinal_ofComment symbol.arity symbol.comment).sublist
    ((List.filter_sublist.trans List.filter_sublist).map _)

theorem identities_of_unnamed (checker : Checker) (symbols : List Symbol) :
    ((checker.judgements symbols).filter fun judged =>
      judged.1.name? = none).map (fun judged => judged.2.identity) =
      symbols.flatMap fun symbol =>
        (checker.unnamedPositions symbol).map
          (Identity.positional symbol.name) := by
  rw [judgements, List.filter_flatMap, List.map_flatMap]
  refine congrArg (List.flatMap · symbols) (funext fun symbol => ?_)
  rw [List.filter_map, List.map_map, unnamedPositions, List.map_map]
  apply List.map_congr_left
  intro directive member
  have unnamed : directive.name? = none := by
    simpa using (List.mem_filter.mp member).2
  exact identity_judge.trans
    (Directive.identity_of_unnamed unnamed symbol.name)

theorem disjoint_positional {symbol other : String}
    (different : symbol ≠ other) (positions otherPositions : List Nat) :
    (positions.map (Identity.positional symbol)).Disjoint
      (otherPositions.map (Identity.positional other)) := by
  intro identity member otherMember
  obtain ⟨position, _, rfl⟩ := List.mem_map.mp member
  obtain ⟨otherPosition, _, same⟩ := List.mem_map.mp otherMember
  exact different (Identity.positional_inj.mp same).1.symm

end Checker

/-- Identities by position are the same only for the same symbol and the same
position.  So in a run over symbols with distinct names, whatever the
comments and the filter are, no two findings about directives without a name
have the same identity; a directive with a fault has no name. -/
theorem positional_identities_never_collide :
    (∀ (symbol other : String) (ordinal otherOrdinal : Nat),
      Identity.positional symbol ordinal =
          Identity.positional other otherOrdinal ↔
        symbol = other ∧ ordinal = otherOrdinal) ∧
    ∀ (checker : Checker) (symbols : List Symbol),
      (symbols.map Symbol.name).Nodup →
      (checker.judgements symbols).map Prod.snd =
        (checker.checkAll symbols).reports.flatMap Report.findings ∧
      (((checker.judgements symbols).filter fun judged =>
        judged.1.name? = none).map fun judged =>
          judged.2.identity).Nodup := by
  refine ⟨fun _ _ _ _ => Identity.positional_inj,
    fun checker symbols distinct =>
      ⟨checker.map_snd_judgements symbols, ?_⟩⟩
  rw [Checker.identities_of_unnamed, List.nodup_flatMap]
  constructor
  · intro symbol _
    exact (checker.nodup_unnamedPositions symbol).map
      fun _ _ same => (Identity.positional_inj.mp same).2
  · exact (List.pairwise_map.mp distinct).imp fun different =>
      Checker.disjoint_positional different _ _

/-- Two symbols of which one is named like a position of the other, with a
directive that has a fault and one whose name is such an identity. -/
theorem joining_sign_in_name_is_no_collision :
    let comment := "@assert - Ann=>Ben\n@assert Ann\n@assert add#1 - Ann=>Ben"
    let symbols : List Symbol :=
      [⟨"add", comment, 1, Demo.greet⟩, ⟨"add#1", comment, 1, Demo.greet⟩]
    let identities :=
      ((Checker.standard.judgements symbols).filter fun judged =>
        judged.1.name? = none).map fun judged => judged.2.identity
    (symbols.map Symbol.name).Nodup ∧
      identities = [⟨"add#1"⟩, ⟨"add#2"⟩, ⟨"add#1#1"⟩, ⟨"add#1#2"⟩] ∧
      identities.Nodup := by
  intro comment symbols identities
  have distinct : (symbols.map Symbol.name).Nodup := by decide
  have given : identities =
      [⟨"add#1"⟩, ⟨"add#2"⟩, ⟨"add#1#1"⟩, ⟨"add#1#2"⟩] :=
    (Checker.identities_of_unnamed Checker.standard symbols).trans
      (by decide)
  exact ⟨distinct, given,
    (positional_identities_never_collide.2 Checker.standard symbols
      distinct).2⟩

end DocCheck
