import Roster.Proofs.ParseOutcome
import Roster.Proofs.StatementGrammar

/-! How far a list reaches. It takes up the tokens in front of the first terminator, wherever that
stands and whatever the terminators are, and nothing behind it matters. -/
namespace Roster
open Vocabulary Grammar

namespace NameList

variable {ends : List TokenValue} {ts us : List Token}

/-- The index of the first token that ends a list, or the number of tokens if none does. -/
def extent (ends : List TokenValue) (ts : List Token) : Nat :=
  ts.findIdx fun t => ends.contains t.value

theorem body_eq_take (ends : List TokenValue) (ts : List Token) :
    body ends ts = ts.take (extent ends ts) := by
  rw [body, extent, List.takeWhile_eq_take_findIdx_not]
  simp only [Bool.not_not]

theorem rest_eq_drop (ends : List TokenValue) (ts : List Token) :
    rest ends ts = ts.drop (extent ends ts) := by
  rw [rest, extent, List.dropWhile_eq_drop_findIdx_not]
  simp only [Bool.not_not]

theorem extent_le (ends : List TokenValue) (ts : List Token) : extent ends ts ≤ ts.length :=
  List.findIdx_le_length

theorem length_body (ends : List TokenValue) (ts : List Token) :
    (body ends ts).length = extent ends ts := by
  rw [body_eq_take, List.length_take, Nat.min_eq_left (extent_le ends ts)]

/-- No token in front of the first terminator is one. -/
theorem not_mem_of_mem_body {t : Token} (h : t ∈ body ends ts) : t.value ∉ ends := by
  have hall := List.all_eq_true.1 (List.all_takeWhile (l := ts)) t h
  simpa using hall

/-- Tokens that are alike up to a first terminator and with it. -/
theorem body_rest_of_take_eq {t : Token} {after : List Token} (hts : rest ends ts = t :: after)
    (h : us.take (extent ends ts + 1) = ts.take (extent ends ts + 1)) :
    body ends us = body ends ts ∧ ∃ after', rest ends us = t :: after' := by
  have ht : t.value ∈ ends := value_mem_of_rest hts
  have htake : ts.take (extent ends ts + 1) = body ends ts ++ [t] := by
    rw [List.take_add, ← body_eq_take, ← rest_eq_drop, hts]
    rfl
  have hus : us = body ends ts ++ t :: us.drop (extent ends ts + 1) :=
    calc
      us = us.take (extent ends ts + 1) ++ us.drop (extent ends ts + 1) :=
        (List.take_append_drop _ us).symm
      _ = body ends ts ++ t :: us.drop (extent ends ts + 1) := by simp [h, htake]
  rw [hus]
  exact ⟨body_of_terminator (fun u => not_mem_of_mem_body) ht _,
    _, rest_of_terminator (fun u => not_mem_of_mem_body) ht _⟩

/-- Neither what a list is read to, nor its fault, depends on tokens behind its terminator. -/
theorem read_congr (h : us.take (extent ends ts + 1) = ts.take (extent ends ts + 1)) :
    read ends us = read ends ts ∧ body ends us = body ends ts := by
  cases hts : rest ends ts with
  | nil =>
    -- the list has all the tokens, so there is nothing that could differ
    have hle : ts.length ≤ extent ends ts := by
      rwa [rest_eq_drop, List.drop_eq_nil_iff] at hts
    have hlength := congrArg List.length h
    simp only [List.length_take] at hlength
    rw [List.take_of_length_le (by omega), List.take_of_length_le (by omega)] at h
    exact ⟨by rw [h], by rw [h]⟩
  | cons t after =>
    obtain ⟨hbody, after', hus⟩ := body_rest_of_take_eq hts h
    refine ⟨?_, hbody⟩
    rw [read_eq_run, read_eq_run, hbody, hts, hus]
    rfl

/-- A list is read exactly if the tokens in front of the first terminator follow the grammar; it
takes these up and leaves the others, and those behind the terminator change nothing. -/
theorem read_eq_ok_iff_take (ends : List TokenValue) (hw : PlainWords (ts.map Token.value)) :
    (∀ texts, read ends ts = .ok texts ↔
      Names ((ts.take (extent ends ts)).map Token.value) texts) ∧
    body ends ts = ts.take (extent ends ts) ∧ (body ends ts).length = extent ends ts ∧
    rest ends ts = ts.drop (extent ends ts) ∧
    ∀ us, us.take (extent ends ts + 1) = ts.take (extent ends ts + 1) →
      read ends us = read ends ts ∧ body ends us = body ends ts := by
  refine ⟨fun texts => ?_, body_eq_take ends ts, length_body ends ts, rest_eq_drop ends ts,
    fun us => read_congr⟩
  rw [← body_eq_take]
  apply read_eq_ok_iff
  rw [← body_append_rest ends ts, List.map_append, plainWords_append] at hw
  exact hw.1

/-- `Ann Lee, Bo and`, and behind that what no list could hold. -/
def namesUpToAnd : List Token :=
  [.word "Ann".toList, .blank, .word "Lee".toList, comma, .blank, .word "Bo".toList, .blank,
    andWord, andWord, toWord].map .ofValue

theorem read_namesUpToAnd :
    PlainWords (namesUpToAnd.map Token.value) ∧
      Names ((namesUpToAnd.take 7).map Token.value) ["Ann Lee".toList, "Bo".toList] ∧
      rest [andWord] namesUpToAnd = namesUpToAnd.drop 7 ∧
      read [andWord] (namesUpToAnd.take 8) = .ok ["Ann Lee".toList, "Bo".toList] := by
  have hw : PlainWords (namesUpToAnd.map Token.value) := by decide
  have hread : read [andWord] namesUpToAnd = .ok ["Ann Lee".toList, "Bo".toList] := rfl
  have hextent : extent [andWord] namesUpToAnd = 7 := by decide
  obtain ⟨hnames, -, -, hrest, hlocal⟩ := read_eq_ok_iff_take [andWord] hw
  rw [hextent] at hnames hrest hlocal
  exact ⟨hw, (hnames _).1 hread, hrest, (hlocal _ rfl).1.trans hread⟩

end NameList
end Roster
