import AccessMask.CommandLine.Outcome
import Mathlib.Data.List.DropRight

/-!
# Laws of filters

The name of a threshold alone, in any case, is a filter with this threshold for
every source, and an invocation shows its journal up to that. Under the highest
threshold nothing is left out.
-/

namespace AccessMask

open Text

/-! ## The name of a threshold -/

theorem isBlank_of_between {c : Char} (low : 0x41 ≤ c.toNat) (high : c.toNat ≤ 0x7A) :
    isBlank c = false := by
  rw [isBlank, CharacterClass.contains, List.any_eq_false]
  intro range listed inRange
  have outside : ∀ range ∈ blank.ranges, range.2 < 0x41 ∨ 0x7A < range.1 := by decide
  obtain ⟨first, last⟩ := Bool.and_eq_true_iff.mp inRange
  have fromFirst : range.1 ≤ c.toNat := of_decide_eq_true first
  have toLast : c.toNat ≤ range.2 := of_decide_eq_true last
  have apart := outside range listed
  omega

theorem isBlank_of_isLower_toLower {c : Char} (letter : c.toLower.isLower = true) :
    isBlank c = false := by
  by_cases capital : 'A'.val ≤ c.val ∧ c.val ≤ 'Z'.val
  · have low : 0x41 ≤ c.toNat := capital.1
    have high : c.toNat ≤ 0x5A := capital.2
    exact isBlank_of_between low (by omega)
  · have same : c.toLower = c := dif_neg capital
    rw [same] at letter
    obtain ⟨first, last⟩ := Bool.and_eq_true_iff.mp letter
    have low : 0x61 ≤ c.toNat := of_decide_eq_true first
    have high : c.toNat ≤ 0x7A := of_decide_eq_true last
    exact isBlank_of_between (by omega) high

namespace Threshold

variable {text : String} {threshold : Threshold} (named : ofName? text = some threshold)

include named

theorem map_toLower_of_ofName? : text.toList.map Char.toLower = threshold.name.toList := by
  rw [ofName?] at named
  have found := List.find?_some named
  have sameName : threshold.name = String.ofList (text.toList.map Char.toLower) :=
    of_decide_eq_true found
  rw [sameName, String.toList_ofList]

theorem toLower_mem_name {c : Char} (member : c ∈ text.toList) :
    c.toLower ∈ threshold.name.toList := by
  rw [← map_toLower_of_ofName? named]
  exact List.mem_map_of_mem member

theorem not_mem_of_ofName? {mark : Char} (outside : mark.toLower ∉ threshold.name.toList) :
    mark ∉ text.toList := by
  intro member
  exact outside (toLower_mem_name named member)

theorem toList_ne_nil_of_ofName? : text.toList ≠ [] := by
  intro empty
  have noName := map_toLower_of_ofName? named
  rw [empty] at noName
  cases threshold <;> exact absurd noName (by decide)

theorem trimmed_of_ofName? : Directive.trimmed text.toList = text.toList := by
  have letters : threshold.name.toList.all Char.isLower = true := by
    cases threshold <;> decide
  have noBlank : ∀ c ∈ text.toList, ¬ isBlank c = true := by
    intro c member
    have letter := List.all_eq_true.mp letters _ (toLower_mem_name named member)
    rw [isBlank_of_isLower_toLower letter]
    exact Bool.false_ne_true
  have front : text.toList.dropWhile isBlank = text.toList :=
    List.dropWhile_eq_self_iff.mpr fun _ => noBlank _ (List.getElem_mem _)
  have back : text.toList.rdropWhile isBlank = text.toList :=
    List.rdropWhile_eq_self_iff.mpr fun _ => noBlank _ (List.getLast_mem _)
  rw [Directive.trimmed, front]
  exact back

end Threshold

/-! ## Filters -/

namespace Filter

variable {text : String} {threshold : Threshold}

theorem ofText_of_ofName? (named : Threshold.ofName? text = some threshold) :
    ofText text = ⟨[⟨"", threshold⟩]⟩ := by
  have oneText : text.toList.splitOn '/' = [text.toList] :=
    List.splitOn_eq_singleton (Threshold.not_mem_of_ofName? named (by cases threshold <;> decide))
  have onePiece : text.toList.splitOn ',' = [text.toList] :=
    List.splitOn_eq_singleton (Threshold.not_mem_of_ofName? named (by cases threshold <;> decide))
  have noSource : text.toList.splitOn '=' = [text.toList] :=
    List.splitOn_eq_singleton (Threshold.not_mem_of_ofName? named (by cases threshold <;> decide))
  have directive : Directive.ofText? text.toList = some ⟨"", threshold⟩ := by
    rw [Directive.ofText?, noSource]
    simp only [String.ofList_toList, named]
  have kept : [text.toList].filter (· ≠ []) = [text.toList] :=
    List.filter_cons_of_pos (decide_eq_true (Threshold.toList_ne_nil_of_ofName? named))
  rw [ofText, oneText]
  simp only [onePiece, List.map_cons, List.map_nil, Threshold.trimmed_of_ofName? named, kept,
    List.filterMap_cons, List.filterMap_nil, directive]

theorem kept_of_ofName? (named : Threshold.ofName? text = some threshold) (source : String)
    (records : List Record) :
    (ofText text).kept source records =
      records.filter fun entry => threshold.shows entry.level := by
  rw [kept, ofText_of_ofName? named]
  rfl

end Filter

namespace CommandLine.Invocation

variable (invocation : Invocation)

theorem shown_of_ofName? {text : String} {threshold : Threshold}
    (named : Threshold.ofName? text = some threshold) :
    invocation.shown (some text) =
      invocation.journal.filter fun entry => threshold.shows entry.level := by
  rw [shown, journal, List.filter_append]
  exact congrArg₂ (· ++ ·) (Filter.kept_of_ofName? named _ _) (Filter.kept_of_ofName? named _ _)

theorem shown_of_trace {text : String} (named : Threshold.ofName? text = some .trace) :
    invocation.shown (some text) = invocation.journal := by
  rw [shown_of_ofName? invocation named]
  exact List.filter_eq_self.mpr fun _ _ => rfl

end CommandLine.Invocation

end AccessMask
