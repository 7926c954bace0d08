import Mathlib.Algebra.Group.Int.Defs
import Mathlib.Order.Bounds.Basic
import TenantGate.Proofs.Number
import TenantGate.Proofs.Page.Window
/-!
# The number of pages

The number of pages is the least one that has room for every row, `⌈t / p⌉`. It is computed as
`(t + p - 1) / p` in steps of the 64-bit word, and there is none where a step leaves the word:

  `pages? w t = some n ↔ t + p ≤ greatest ∧ n = (t + p - 1) / p`

With a page size of at most 200 that is all but the last two hundred numbers of rows, although the
number of pages itself would fit the word for each of them.
-/

namespace TenantGate

open Number

/-- The least number of groups of `p` that hold `t`. -/
theorem isLeast_ceil (t : Int) {p : Int} (hp : 0 < p) :
    IsLeast {n : Int | t ≤ n * p} ((t + p - 1) / p) := by
  constructor
  · have hlt := Int.lt_ediv_add_one_mul_self (t + p - 1) hp
    rw [Int.add_mul, Int.one_mul] at hlt
    show t ≤ (t + p - 1) / p * p
    omega
  · intro n hn
    have hle : t ≤ n * p := hn
    refine Int.lt_add_one_iff.1 (Int.ediv_lt_of_lt_mul hp ?_)
    rw [Int.add_mul, Int.one_mul]
    omega

namespace PageInfo

section

variable {w : Window} {t : Int64} (ht : 0 ≤ t.toInt) (hsize : 1 ≤ w.perPage.toInt)

include ht hsize

/-! ### The steps of the computation

Of the three steps only the sum can leave the word: what follows it takes one away and divides, and
both stay between zero and the sum. -/

/-- There is a number of pages exactly if rows and page size fit the word together, and then it is
that of the rows rounded up. -/
theorem pages?_eq_some_iff {n : Int64} : pages? w t = some n ↔
    t.toInt + w.perPage.toInt ≤ int64Greatest ∧
      n.toInt = (t.toInt + w.perPage.toInt - 1) / w.perPage.toInt := by
  have hzero : w.perPage ≠ 0 := by
    intro h
    rw [h, Int64.toInt_zero] at hsize
    omega
  have hdiv : (t.toInt + w.perPage.toInt - 1).tdiv w.perPage.toInt =
      (t.toInt + w.perPage.toInt - 1) / w.perPage.toInt :=
    Int.tdiv_eq_ediv_of_nonneg (by omega)
  simp only [pages?, Option.bind_eq_bind, Option.bind_eq_some_iff, toInt64?_eq_some_iff,
    if_neg hzero]
  rw [int64Greatest_eq]
  constructor
  · rintro ⟨sum, hsum, raised, hraised, hn⟩
    have hfits := sum.toInt_lt
    rw [hraised, hsum, hdiv] at hn
    exact ⟨by omega, hn⟩
  · rintro ⟨hfits, hn⟩
    obtain ⟨sum, hsum⟩ := exists_toInt_iff.2
      (show -2 ^ 63 ≤ t.toInt + w.perPage.toInt ∧ t.toInt + w.perPage.toInt < 2 ^ 63 by omega)
    obtain ⟨raised, hraised⟩ := exists_toInt_iff.2
      (show -2 ^ 63 ≤ sum.toInt - 1 ∧ sum.toInt - 1 < 2 ^ 63 by omega)
    exact ⟨sum, hsum, raised, hraised, by rw [hraised, hsum, hdiv, hn]⟩

/-- A quotient of what fits the word fits it as well, so the sum alone decides. -/
theorem isSome_pages?_iff : (pages? w t).isSome ↔
    t.toInt + w.perPage.toInt ≤ int64Greatest := by
  rw [Option.isSome_iff_exists]
  constructor
  · rintro ⟨n, hn⟩
    exact ((pages?_eq_some_iff ht hsize).1 hn).1
  · intro hfits
    have hnonneg : 0 ≤ (t.toInt + w.perPage.toInt - 1) / w.perPage.toInt :=
      Int.ediv_nonneg (by omega) (by omega)
    have hle : (t.toInt + w.perPage.toInt - 1) / w.perPage.toInt ≤
        t.toInt + w.perPage.toInt - 1 := Int.ediv_le_self _ (by omega)
    rw [int64Greatest_eq] at hfits
    obtain ⟨n, hn⟩ := exists_toInt_iff.2
      (show -2 ^ 63 ≤ (t.toInt + w.perPage.toInt - 1) / w.perPage.toInt ∧
        (t.toInt + w.perPage.toInt - 1) / w.perPage.toInt < 2 ^ 63 by omega)
    exact ⟨n, (pages?_eq_some_iff ht hsize).2 ⟨by rw [int64Greatest_eq]; exact hfits, hn⟩⟩

/-! ### What the number of pages says

The least number with room is determined by that, and the rest follows from it alone. -/

/-- The number of pages is the least one that has room for every row. -/
theorem isLeast_of_pages? {n : Int64} (h : pages? w t = some n) :
    IsLeast {m : Int | t.toInt ≤ m * w.perPage.toInt} n.toInt := by
  rw [((pages?_eq_some_iff ht hsize).1 h).2]
  exact isLeast_ceil t.toInt (by omega)

/-- Only an empty result has no pages. -/
theorem eq_zero_iff_of_pages? {n : Int64} (h : pages? w t = some n) : n = 0 ↔ t = 0 := by
  obtain ⟨-, hn⟩ := (pages?_eq_some_iff ht hsize).1 h
  rw [← Int64.toInt_inj, ← Int64.toInt_inj, Int64.toInt_zero]
  constructor
  · intro hzero
    have hroom : t.toInt ≤ n.toInt * w.perPage.toInt := (isLeast_of_pages? ht hsize h).1
    rw [hzero, Int.zero_mul] at hroom
    omega
  · intro hzero
    rw [hn, hzero]
    exact Int.ediv_eq_zero_of_lt (by omega) (by omega)

/-- Fewer rows have a number of pages as well, and it is no greater. -/
theorem pages?_mono {n t' : Int64} (h : pages? w t = some n) (ht' : 0 ≤ t'.toInt)
    (hle : t'.toInt ≤ t.toInt) : ∃ n', pages? w t' = some n' ∧ n' ≤ n := by
  obtain ⟨hfits, hn⟩ := (pages?_eq_some_iff ht hsize).1 h
  have hsome : (pages? w t').isSome := (isSome_pages?_iff ht' hsize).2 (by omega)
  obtain ⟨n', hn'⟩ := Option.isSome_iff_exists.1 hsome
  refine ⟨n', hn', ?_⟩
  rw [Int64.le_iff_toInt_le, hn, ((pages?_eq_some_iff ht' hsize).1 hn').2]
  exact Int.ediv_le_ediv (by omega) (by omega)

end

/-! ### Answers

From the computation to what a request is told, for the window that any request has. -/

/-- A known number of rows is told with its number of pages, or not at all. -/
theorem ofWindow?_some_eq_some_iff {w : Window} {hasMore : Bool} {t : Int64} {p : PageInfo} :
    ofWindow? w hasMore (some t) = some p ↔
      ∃ n, pages? w t = some n ∧ p = ⟨w.page, w.perPage, hasMore, some t, some n⟩ := by
  rw [ofWindow?, Option.map_eq_some_iff]
  simp only [eq_comm]

/-- Up to two hundred rows less than the word can say, every page of a request has an answer. -/
theorem exists_ofWindow? (page perPage : Option Int64) (default : Int64) (hasMore : Bool)
    {total : Option Int64} (h : ∀ t ∈ total, 0 ≤ t.toInt ∧ t.toInt ≤ int64Greatest - 200) :
    ∃ p, ofWindow? (Window.ofRequest page perPage default) hasMore total = some p ∧
      p.hasMore = hasMore ∧ p.totalRows = total := by
  cases total with
  | none => exact ⟨_, rfl, rfl, rfl⟩
  | some t =>
    obtain ⟨ht, hroom⟩ := h t rfl
    obtain ⟨hsize, hgreatest⟩ := Window.toInt_perPage_bounds page perPage default
    rw [show Window.greatestSize.toInt = 200 from rfl] at hgreatest
    obtain ⟨n, hn⟩ := Option.isSome_iff_exists.1 ((isSome_pages?_iff ht hsize).2 (by omega))
    exact ⟨_, ofWindow?_some_eq_some_iff.2 ⟨n, hn, rfl⟩, rfl, rfl⟩

/-- For the window of every request and every number of rows: an answer can be given exactly if
rows and page size fit the word together. Where it is given, it tells the rows, and its number of
pages is the least one that has room for them, is zero only for an empty result, and fewer rows
have an answer with no more pages. -/
theorem totalPages_of_request (page perPage : Option Int64) (default : Int64) (hasMore : Bool)
    {t : Int64} (ht : 0 ≤ t) :
    let w := Window.ofRequest page perPage default
    ((ofWindow? w hasMore (some t)).isSome ↔ t.toInt + w.perPage.toInt ≤ int64Greatest) ∧
      ∀ p, ofWindow? w hasMore (some t) = some p →
        p.totalRows = some t ∧ ∃ n : Int64, p.totalPages = some n ∧
          IsLeast {m : Int | t.toInt ≤ m * w.perPage.toInt} n.toInt ∧
          (n = 0 ↔ t = 0) ∧
          ∀ t' : Int64, 0 ≤ t' → t' ≤ t → ∃ (p' : PageInfo) (n' : Int64),
            ofWindow? w hasMore (some t') = some p' ∧ p'.totalPages = some n' ∧ n' ≤ n := by
  intro w
  have hsize : 1 ≤ w.perPage.toInt := (Window.toInt_perPage_bounds page perPage default).1
  rw [Int64.le_iff_toInt_le, Int64.toInt_zero] at ht
  constructor
  · rw [ofWindow?, Option.isSome_map]
    exact isSome_pages?_iff ht hsize
  · intro p hp
    obtain ⟨n, hn, rfl⟩ := ofWindow?_some_eq_some_iff.1 hp
    refine ⟨rfl, n, rfl, isLeast_of_pages? ht hsize hn, eq_zero_iff_of_pages? ht hsize hn, ?_⟩
    intro t' ht' hle
    rw [Int64.le_iff_toInt_le, Int64.toInt_zero] at ht'
    rw [Int64.le_iff_toInt_le] at hle
    obtain ⟨n', hn', hle'⟩ := pages?_mono ht hsize hn ht' hle
    exact ⟨_, n', ofWindow?_some_eq_some_iff.2 ⟨n', hn', rfl⟩, rfl, hle'⟩

/-- The greatest number of rows whose pages of two are told. -/
theorem totalPages_of_request_last :
    let w := Window.ofRequest none (some 2) 25
    let t : Int64 := 9223372036854775805
    (0 : Int64) ≤ t ∧ ∃ (p : PageInfo) (n : Int64), ofWindow? w false (some t) = some p ∧
      p.totalPages = some n ∧ IsLeast {m : Int | t.toInt ≤ m * w.perPage.toInt} n.toInt ∧
      n = 4611686018427387903 := by
  intro w t
  have ht : (0 : Int64) ≤ t := by decide
  obtain ⟨hanswer, htold⟩ := totalPages_of_request none (some 2) 25 false ht
  obtain ⟨p, hp⟩ := Option.isSome_iff_exists.1 (hanswer.2 (by decide))
  obtain ⟨-, n, hn, hleast, -⟩ := htold p hp
  refine ⟨ht, p, n, hp, hn, hleast, ?_⟩
  have hunique := hleast.unique (isLeast_ceil t.toInt (p := w.perPage.toInt) (by decide))
  exact Int64.toInt_inj.1 (hunique.trans (by decide))

/-- With two rows on a page the greatest number of rows there is would need `2 ^ 62` pages, which
fit the word, and yet there is no answer; nor is there one for a single row less. -/
theorem totalPages_of_greatest :
    let w := Window.ofRequest none (some 2) 25
    let t : Int64 := 9223372036854775807
    ofWindow? w false (some t) = none ∧ ofWindow? w false (some (t - 1)) = none ∧
      IsLeast {m : Int | t.toInt ≤ m * w.perPage.toInt} 4611686018427387904 ∧
      fitsInt64 4611686018427387904 = true := by
  refine ⟨by decide, by decide, ?_, by decide⟩
  exact isLeast_ceil 9223372036854775807 (p := 2) (by decide)

end PageInfo
end TenantGate
