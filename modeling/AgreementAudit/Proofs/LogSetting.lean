import AgreementAudit.Proofs.EntryReading
import Mathlib.Data.List.Induction
import Mathlib.Data.Prod.Lex
import Mathlib.Data.String.Basic

/-! What a setting of the log asks for: the rules that its entries spell, in their order. Of the rules that cover an
event the one for the longest part decides whether it is shown, or of these the one with the last field. A setting with
an entry that makes no sense is none. -/
namespace AgreementAudit

namespace EventFilter

theorem entries_intercalate {texts : List String} (apart : ∀ text ∈ texts, ',' ∉ text.toList) (some : texts ≠ []) :
    (String.intercalate "," texts).toList.splitOn ',' = texts.map String.toList := by
  rw [String.toList_intercalate]
  exact List.splitOn_intercalate ',' (List.forall_mem_map.2 apart) (mt List.map_eq_nil_iff.1 some)

section Setting

variable {entries : List (FilterRule × String)}

theorem entries_of_spells (spelled : ∀ entry ∈ entries, SpellsRule entry.1 entry.2) :
    ((entries.map Prod.snd).map String.toList).filter (· ≠ []) = entries.map (fun entry => entry.2.toList) ∧
      List.Forall₂ (fun entry rule => ruleOfEntry entry = .ok rule) (entries.map fun entry => entry.2.toList)
        (entries.map Prod.fst) := by
  rw [List.map_map]
  refine ⟨?_, ?_⟩
  · apply List.filter_eq_self.2
    rw [List.forall_mem_map]
    exact fun entry member => decide_eq_true (spelled entry member).apart.2
  · rw [List.forall₂_map_left_iff, List.forall₂_map_right_iff, List.forall₂_same]
    exact fun entry member => ruleOfEntry_of_spells (spelled entry member)

theorem ofSetting_of_spells (spelled : ∀ entry ∈ entries, SpellsRule entry.1 entry.2) (some : entries ≠ []) :
    ofSetting (.some (String.intercalate "," (entries.map Prod.snd))) = .ok ⟨entries.map Prod.fst⟩ := by
  have apart : ∀ text ∈ entries.map Prod.snd, ',' ∉ text.toList :=
    List.forall_mem_map.2 fun entry member => (spelled entry member).apart.1
  obtain ⟨kept, read⟩ := entries_of_spells spelled
  unfold ofSetting
  dsimp only
  rw [entries_intercalate apart (mt List.map_eq_nil_iff.1 some), kept, mapM_eq_ok_iff.2 read]
  cases entries with
  | nil => exact absurd rfl some
  | cons entry rest => rfl

/-- A setting with an entry that makes no sense is none, whatever stands behind that entry. -/
theorem ofSetting_of_senseless (spelled : ∀ entry ∈ entries, SpellsRule entry.1 entry.2) {bad : String}
    (senseless : Senseless bad) {others : List String} (apart : ∀ other ∈ others, ',' ∉ other.toList) :
    ofSetting (some (String.intercalate "," (entries.map Prod.snd ++ bad :: others))) = ofSetting none := by
  have allApart : ∀ text ∈ entries.map Prod.snd ++ bad :: others, ',' ∉ text.toList := by
    rw [List.forall_mem_append, List.forall_mem_map, List.forall_mem_cons]
    exact ⟨fun entry member => (spelled entry member).apart.1, senseless.apart.1, apart⟩
  obtain ⟨kept, read⟩ := entries_of_spells spelled
  have good : ∀ entry ∈ entries.map (fun entry => entry.2.toList), ∃ rule, ruleOfEntry entry = .ok rule := by
    rw [List.forall_mem_map]
    exact fun entry member => ⟨entry.1, ruleOfEntry_of_spells (spelled entry member)⟩
  have fails : (entries.map (fun entry => entry.2.toList) ++
      bad.toList :: (others.map String.toList).filter (· ≠ [])).mapM ruleOfEntry = .error .malformed :=
    mapM_eq_error_iff.2 ⟨_, bad.toList, _, rfl, good, ruleOfEntry_of_senseless senseless⟩
  unfold ofSetting
  dsimp only
  rw [entries_intercalate allApart (by simp), List.map_append, List.filter_append, kept, List.map_cons,
    List.filter_cons_of_pos, fails]
  exact decide_eq_true senseless.apart.2

end Setting

end EventFilter

namespace FilterRule

/-- What is compared of rules: the length of the part, then the field. -/
def key (rule : FilterRule) : Nat ×ₗ String := toLex (rule.reach, rule.fieldName)

theorem finer_eq (first second : FilterRule) :
    finer first second = if second.key < first.key then first else second := by
  unfold finer key
  simp only [Prod.Lex.toLex_lt_toLex]

theorem covers_iff (rule : FilterRule) (event : Event) :
    rule.covers event = true ↔ rule.span = none ∧ rule.value = none ∧
      (∀ name, rule.part = some name → name.toList <+: event.part.name.toList) ∧
      ∀ name, rule.field = some name → name ∈ event.fieldNames := by
  simp [covers, Option.all_eq_true, and_assoc]

/-- Of the rules that cover an event, the last one of those with the greatest key. -/
def Decides (rules : List FilterRule) (event : Event) (rule : FilterRule) : Prop :=
  ∃ before after, rules.filter (·.covers event) = before ++ rule :: after ∧
    (∀ other ∈ before, other.key ≤ rule.key) ∧ ∀ other ∈ after, other.key < rule.key

theorem foldl_finer (first : FilterRule) (rest : List FilterRule) :
    ∃ before after, first :: rest = before ++ rest.foldl finer first :: after ∧
      (∀ other ∈ before, other.key ≤ (rest.foldl finer first).key) ∧
      ∀ other ∈ after, other.key < (rest.foldl finer first).key := by
  induction rest using List.reverseRecOn with
  | nil => exact ⟨[], [], rfl, List.forall_mem_nil _, List.forall_mem_nil _⟩
  | append_singleton rest last ih =>
    obtain ⟨before, after, split, upTo, behind⟩ := ih
    rw [List.foldl_concat, ← List.cons_append]
    generalize rest.foldl finer first = winner at split upTo behind ⊢
    rw [finer_eq, split]
    split
    next less =>
      refine ⟨before, after ++ [last], by simp, upTo, ?_⟩
      rw [List.forall_mem_append, List.forall_mem_singleton]
      exact ⟨behind, less⟩
    next enough =>
      have winnerUpTo := not_lt.1 enough
      refine ⟨before ++ winner :: after, [], rfl, ?_, List.forall_mem_nil _⟩
      rw [List.forall_mem_append, List.forall_mem_cons]
      exact ⟨fun other member => (upTo other member).trans winnerUpTo, winnerUpTo,
        fun other member => ((behind other member).trans_le winnerUpTo).le⟩

end FilterRule

namespace EventFilter

theorem shows_cases (rules : List FilterRule) (event : Event) :
    (∃ rule, FilterRule.Decides rules event rule ∧ shows ⟨rules⟩ event = rule.verbosity.shows event.level) ∨
      (∀ rule ∈ rules, rule.covers event = false) ∧ shows ⟨rules⟩ event = false := by
  cases covering : rules.filter (·.covers event) with
  | nil =>
    refine Or.inr ⟨fun rule member => by simpa using List.filter_eq_nil_iff.1 covering rule member, ?_⟩
    simp [shows, decisive?, covering]
  | cons first rest =>
    obtain ⟨before, after, split, upTo, behind⟩ := FilterRule.foldl_finer first rest
    refine Or.inl ⟨rest.foldl FilterRule.finer first, ⟨before, after, covering.trans split, upTo, behind⟩, ?_⟩
    simp [shows, decisive?, covering]

/-- A setting of spelled rules asks for these, in their order. On each event the rule decides that is the last of those
with the greatest key among the rules that cover the event, and an event that none covers is hidden. -/
theorem setting_asks_for {entries : List (FilterRule × String)}
    (spelled : ∀ entry ∈ entries, SpellsRule entry.1 entry.2) (some : entries ≠ []) :
    let rules := entries.map Prod.fst
    ofSetting (.some (String.intercalate "," (entries.map Prod.snd))) = .ok ⟨rules⟩ ∧
      ∀ event : Event,
        (∀ rule ∈ rules, rule.covers event = true ↔ rule.span = none ∧ rule.value = none ∧
          (∀ name, rule.part = .some name → name.toList <+: event.part.name.toList) ∧
          ∀ name, rule.field = .some name → name ∈ event.fieldNames) ∧
        ((∃ rule, FilterRule.Decides rules event rule ∧
            shows ⟨rules⟩ event = rule.verbosity.shows event.level) ∨
          (∀ rule ∈ rules, rule.covers event = false) ∧ shows ⟨rules⟩ event = false) := by
  intro rules
  refine ⟨ofSetting_of_spells spelled some, ?_⟩
  intro event
  exact ⟨fun rule _ => rule.covers_iff event, shows_cases rules event⟩

example : ofSetting (some "info,lattice_verify::services::checker[\x7bround=1\x7d]=debug") =
    .ok ⟨[{ verbosity := some .info },
      { part := some "lattice_verify::services::checker", field := some "round", value := some "1",
        verbosity := some .debug }]⟩ := by
  decide +kernel

end EventFilter

end AgreementAudit
