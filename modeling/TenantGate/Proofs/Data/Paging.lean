import TenantGate.Proofs.Data.Isolation
import TenantGate.Proofs.Page.Total
/-!
# Walking through the pages

A caller who asks for one page after the other gets every row that matches once, in order, and is
told on the last page that there is no further one:

    act_pages : the rows of the pages 1, …, max 1 ⌈N / n⌉ are, one after the other, the N rows

A page is read with one row more than it shows. That this row, the offset and the separate count
agree is said for one page in `act_atPage`, in whole numbers (`Page.part`); that the parts of a
list make up the list is `Page.flatMap_part`.
-/

namespace TenantGate

open Sql Server TenantGate.Action

/-- The same request for another page. -/
def Listing.atPage (r : Listing) (p : Int64) : Listing := { r with page := some p }

/-- Where the number of pages can be told, the page is described with it. -/
theorem TenantTable.describe_eq_ok {w : Window} {hasMore : Bool} {total : Option Int64}
    {paging : PageInfo} (h : PageInfo.ofWindow? w hasMore total = some paging) :
    describe w hasMore total = .ok paging := by
  rw [describe, h]

/-! ### Parts of a list

Pages as parts of a list, without statements, words or windows. -/

namespace Page

variable {α : Type}

/-- Page `p` of a list, counted from 1, with `n` elements on a page, and whether more follow. -/
def part (n : Nat) (l : List α) (p : Nat) : List α × Bool :=
  ((l.drop ((p - 1) * n)).take n, p * n < l.length)

/-- How many pages there are; the first one is there even if nothing is on it. -/
def lastPart (n : Nat) (l : List α) : Nat := max 1 ((l.length + n - 1) / n)

/-- The first `k` pages hold the front of the list. -/
theorem flatMap_part (n : Nat) (l : List α) (k : Nat) :
    ((List.range k).flatMap fun i => (part n l (i + 1)).1) = l.take (k * n) := by
  induction k with
  | zero => rw [Nat.zero_mul, List.take_zero, List.range_zero, List.flatMap_nil]
  | succ k ih =>
    rw [List.range_succ, List.flatMap_append, ih, List.flatMap_singleton, Nat.succ_mul,
      List.take_add, part, Nat.add_sub_cancel]

/-- No page is longer than a page may be. -/
theorem length_part_le (n : Nat) (l : List α) (p : Nat) : (part n l p).1.length ≤ n :=
  List.length_take_le _ _

variable {n : Nat} {l : List α}

/-- Everything is on a page that is not after the last one. -/
theorem length_le_lastPart_mul (hn : 1 ≤ n) : l.length ≤ lastPart n l * n := by
  have hdiv : l.length + n - 1 < ((l.length + n - 1) / n + 1) * n :=
    Nat.lt_mul_of_div_lt (Nat.lt_succ_self _) hn
  have hle : (l.length + n - 1) / n * n ≤ lastPart n l * n :=
    Nat.mul_le_mul_right n (Nat.le_max_right _ _)
  rw [Nat.add_mul] at hdiv
  omega

/-- More follows exactly on the pages before the last one. -/
theorem part_snd_iff (hn : 1 ≤ n) {p : Nat} (hp : 1 ≤ p) :
    (part n l p).2 = true ↔ p < lastPart n l := by
  have hceil : p < (l.length + n - 1) / n ↔ p * n < l.length := by
    rw [Nat.lt_iff_add_one_le, Nat.le_div_iff_mul_le hn, Nat.add_mul]
    omega
  rw [part, decide_eq_true_iff, ← hceil, lastPart]
  omega

/-- Nothing is on a page after the last one. -/
theorem part_eq_nil (hn : 1 ≤ n) {p : Nat} (hp : lastPart n l < p) : (part n l p).1 = [] := by
  have hbefore : lastPart n l * n ≤ (p - 1) * n := Nat.mul_le_mul_right n (by omega)
  have hlength := length_le_lastPart_mul (l := l) hn
  rw [part, List.drop_eq_nil_of_le (by omega), List.take_nil]

/-- All pages together hold the list. -/
theorem flatMap_part_lastPart (hn : 1 ≤ n) :
    ((List.range (lastPart n l)).flatMap fun i => (part n l (i + 1)).1) = l := by
  rw [flatMap_part, List.take_of_length_le (length_le_lastPart_mul hn)]

end Page

/-! ### The statements of one page

Only the extent of the rows depends on which page is asked for. -/

namespace Page

variable {t : Table} {scope : Scope} {r : Listing} {w : Window} {s : Statements}

/-- Another page has the same statements, for another part of the rows. -/
theorem statements_atPage (h : statements t scope r w = .ok s) (p : Int64) (w' : Window) :
    statements t scope (r.atPage p) w' =
      .ok { s with rows := { s.rows with extent := .slice w'.limit w'.offset } } := by
  obtain ⟨columns, f, terms, hcolumns, hf, hterms, rfl⟩ := statements_eq_ok_iff.1 h
  exact statements_eq_ok_iff.2 ⟨columns, f, terms, hcolumns, hf, hterms, rfl⟩

end Page

/-! ### Windows over lists

A window takes one element more than a page holds, and the cut that shows the page tells from it
whether more follow. -/

namespace Data

variable {α β : Type}

/-- With numbers that are not negative, a slice is cut out of the list. -/
theorem cut_slice (l : List α) {limit offset : Int64} (hlimit : 0 ≤ limit.toInt)
    (hoffset : 0 ≤ offset.toInt) :
    cut l (.slice limit offset) = .ok ((l.drop offset.toInt.toNat).take limit.toInt.toNat) := by
  have hzero : Int64.toInt 0 = 0 := rfl
  rw [cut, if_neg (by rw [Int64.lt_iff_toInt_lt]; omega),
    if_neg (by rw [Int64.lt_iff_toInt_lt]; omega)]

/-- To leave out more than there is makes no difference to how much more. -/
theorem drop_min {l : List α} {g : Nat} (hl : l.length ≤ g) (k : Nat) :
    l.drop (min g k) = l.drop k := by
  rcases Nat.le_total k g with hk | hk
  · rw [Nat.min_eq_right hk]
  · rw [Nat.min_eq_left hk, List.drop_eq_nil_of_le hl, List.drop_eq_nil_of_le (by omega)]

/-- A page that is read with one row more shows the page, and whether more follow. -/
theorem cut_part {l : List α} {n p : Nat} (hp : 1 ≤ p) {perPage : Int64} (hn : perPage.toInt = n) :
    Window.cut perPage ((l.drop ((p - 1) * n)).take (n + 1)) = Page.part n l p := by
  have hrows : (p - 1) * n + n = p * n := by
    rw [← Nat.succ_mul, Nat.succ_eq_add_one, Nat.sub_add_cancel hp]
  rw [Window.cut, hn, Int.toNat_natCast, Page.part, List.take_take, Nat.min_eq_left (by omega),
    List.length_take, List.length_drop]
  refine congrArg (_, ·) (decide_eq_decide.2 ?_)
  omega

/-- What a window of a list shows is the page, also where the offset is too large to be said: the
list is shorter than any such offset. -/
theorem cut_ofRequest (f : α → β) {l : List α} (hl : (l.length : Int) ≤ Number.int64Greatest)
    {p : Nat} (hp : 1 ≤ p) (hword : (p : Int) ≤ Number.int64Greatest) (perPage : Option Int64)
    (default : Int64) :
    ∃ rows, cut l (.slice (Window.ofRequest (some (.ofNat p)) perPage default).limit
        (Window.ofRequest (some (.ofNat p)) perPage default).offset) = .ok rows ∧
      Window.cut (Window.ofRequest (some (.ofNat p)) perPage default).perPage (rows.map f) =
        Page.part (Window.ofRequest (some (.ofNat p)) perPage default).perPage.toInt.toNat
          (l.map f) p := by
  -- the numbers of the window, as whole numbers
  have hpage := toInt_ofNat_le hword
  have hlimit := Window.toInt_limit (some (.ofNat p)) perPage default
  have hoffset := Window.toInt_offset (p := .ofNat p) (by omega) perPage default
  obtain ⟨hleast, -⟩ := Window.toInt_perPage_bounds (some (.ofNat p)) perPage default
  generalize Window.ofRequest (some (.ofNat p)) perPage default = w at *
  obtain ⟨n, hn⟩ := Int.eq_ofNat_of_zero_le (show 0 ≤ w.perPage.toInt by omega)
  obtain ⟨g, hg⟩ : ∃ g : Nat, Number.int64Greatest = g := ⟨_, int64Greatest_eq⟩
  -- the offset is that of the page or the greatest word, and the list is not longer than that
  have hskip : w.offset.toInt = (min g ((p - 1) * n) : Nat) := by
    have hbefore : (((p - 1) * n : Nat) : Int) = (p - 1) * n := by
      rw [Int.natCast_mul, Int.natCast_sub hp]
      rfl
    rw [hoffset, hpage, hn, hg, ← hbefore]
    omega
  have htake : w.limit.toInt = (n + 1 : Nat) := by
    rw [hlimit, hn]
    rfl
  refine ⟨_, cut_slice l (by omega) (by omega), ?_⟩
  rw [hskip, htake, Int.toNat_natCast, Int.toNat_natCast, drop_min (by omega), List.map_take,
    List.map_drop, cut_part hp hn, hn, Int.toNat_natCast]

/-! ### Pages of a table

From one page to all of them: each is a part of one list of matching rows, because the operation
does not change the database. -/

namespace Interpretation

variable {Datum : Type} (I : Interpretation Datum)

/-- What an action gives when it is done on a database, and the database after it. -/
def act (s : Script) (c : TableCache) (x : Action α) (db : Database Datum) :
    Except Failure α × Database Datum :=
  let played := (x c).play (I.reply s) db
  (played.1.1, played.2.2)

/-- The rows that match a request, in order, as a page shows them. -/
def matching (db : Database Datum) (q : Query) : List Json :=
  (I.found db q).map (Row.toJson ∘ I.shown q.outputs)

variable {I} {s : Script} {c : TableCache} {t : TenantTable} {r : Listing} {d : Int64}
  {db db' : Database Datum} {st : Page.Statements}

/-- A statement is executed, and the action goes on with its result. -/
theorem act_execute_bind {st : Statement} {result : Result} {f : Result → Action α}
    (h : I.execute db st = (.ok result, db')) :
    I.act s c (Action.execute st >>= f) db = I.act s c (f result) db' := by
  show (let played := ((ofReply (I.execute db st).1 >>= f) c).play (I.reply s) (I.execute db st).2
    (played.1.1, played.2.2)) = _
  rw [h]
  rfl

/-- An outcome that is there is gone on with. -/
theorem act_ofExcept_bind {y : Except Failure β} {b : β} {f : β → Action α} (h : y = .ok b) :
    I.act s c (Action.ofExcept y >>= f) db = I.act s c (f b) db := by
  rw [h]
  rfl

/-- A page shows the rows that its statement gives, less the one that tells whether more follow, and
the total is that of the count. -/
theorem act_page {bs : List (Binding Datum)} {n : Nat} {paging : PageInfo}
    (hst : Page.statements t.table t.scope r (r.window d) = .ok st)
    (hcut : cut (I.found db st.rows) st.rows.extent = .ok bs)
    (hcount : ((db st.count.1).filter fun row => I.keeps st.count.2 [(none, row)]).length = n)
    (hpaging : PageInfo.ofWindow? (r.window d)
      (Window.cut (r.window d).perPage ((bs.map (I.shown st.rows.outputs)).map Row.toJson)).2
      (if r.withTotal then some (.ofNat n) else none) = some paging) :
    I.act s c (t.page r d) db =
      (.ok ((Window.cut (r.window d).perPage
        ((bs.map (I.shown st.rows.outputs)).map Row.toJson)).1, paging), db) := by
  have hpage : I.execute db st.page =
      (.ok { rows := bs.map (I.shown st.rows.outputs), affected := bs.length }, db) := by
    show ((cut _ _).map _, db) = _
    rw [hcut]
    rfl
  have htotal : I.execute db st.total =
      (.ok { rows := [[("total", .int .eight (.ofNat n))]], affected := 1 }, db) := by
    rw [← hcount]
    rfl
  have hdescribe := TenantTable.describe_eq_ok hpaging
  rw [TenantTable.page, hst]
  -- Without a total the count is not sent; the database is as it was in both cases.
  cases hwith : r.withTotal with
  | false =>
    rw [hwith] at hdescribe
    show I.act s c (Action.execute st.page >>= _) db = _
    rw [act_execute_bind hpage]
    exact act_ofExcept_bind hdescribe
  | true =>
    rw [hwith] at hdescribe
    show I.act s c (Action.execute st.total >>= _) db = _
    rw [act_execute_bind htotal]
    show I.act s c (Action.execute st.page >>= _) db = _
    rw [act_execute_bind hpage]
    exact act_ofExcept_bind hdescribe

/-- As many rows match as the count counts. -/
theorem length_matching (hst : Page.statements t.table t.scope r (r.window d) = .ok st) :
    ((db st.count.1).filter fun row => I.keeps st.count.2 [(none, row)]).length =
      (I.matching db st.rows).length := by
  obtain ⟨columns, f, terms, -, -, -, rfl⟩ := Page.statements_eq_ok_iff.1 hst
  rw [matching, I.found_eq rfl rfl, List.length_map, List.length_mergeSort, List.length_map]

/-- One page of a request, in whole numbers: a part of the rows that match, and their number. -/
theorem act_atPage (hst : Page.statements t.table t.scope r (r.window d) = .ok st)
    (hmatching : ((I.matching db st.rows).length : Int) ≤ Number.int64Greatest)
    {p : Nat} (hp : 1 ≤ p) (hword : (p : Int) ≤ Number.int64Greatest) {paging : PageInfo}
    (hpaging : PageInfo.ofWindow? ((r.atPage (.ofNat p)).window d)
      (Page.part (r.window d).perPage.toInt.toNat (I.matching db st.rows) p).2
      (if r.withTotal then some (.ofNat (I.matching db st.rows).length) else none) =
        some paging) :
    I.act s c (t.page (r.atPage (.ofNat p)) d) db =
      (.ok ((Page.part (r.window d).perPage.toInt.toNat (I.matching db st.rows) p).1, paging),
        db) := by
  have hfound : ((I.found db st.rows).length : Int) ≤ Number.int64Greatest := by
    rwa [matching, List.length_map] at hmatching
  obtain ⟨bs, hbs, hpart⟩ :=
    cut_ofRequest (Row.toJson ∘ I.shown st.rows.outputs) hfound hp hword r.perPage d
  have hstp := Page.statements_atPage hst (.ofNat p) ((r.atPage (.ofNat p)).window d)
  have hcount : ((db st.count.1).filter fun row => I.keeps st.count.2 [(none, row)]).length =
      (I.matching db st.rows).length := length_matching hst
  -- the rows of the page's own window are the part that the page number stands for
  have hcut : Window.cut ((r.atPage (.ofNat p)).window d).perPage
      ((bs.map (I.shown st.rows.outputs)).map Row.toJson) =
        Page.part (r.window d).perPage.toInt.toNat (I.matching db st.rows) p := by
    rw [List.map_map]
    exact hpart
  rw [← hcut] at hpaging
  rw [act_page hstp hbs hcount hpaging, hcut]

/-- Whoever asks for one page after the other is given every row that matches once and in order,
where every page but the last says that more follow; after the last one the pages are empty, up to
the greatest page number there is. The total is the number of rows that match, on every page. -/
theorem act_pages (I : Interpretation Datum) (s : Script) (c : TableCache) (t : TenantTable)
    (r : Listing) (d : Int64) (db : Database Datum)
    (hst : Page.statements t.table t.scope r (r.window d) = .ok st)
    (hmatching : ((I.matching db st.rows).length : Int) ≤ Number.int64Greatest - 200) :
    let rows := I.matching db st.rows
    let perPage := (r.window d).perPage.toInt.toNat
    let last := max 1 ((rows.length + perPage - 1) / perPage)
    1 ≤ perPage ∧ perPage ≤ 200 ∧
      ∃ page : Nat → List Json × PageInfo,
        (∀ p : Nat, 1 ≤ p → (p : Int) ≤ Number.int64Greatest →
          I.act s c (t.page (r.atPage (.ofNat p)) d) db = (.ok (page p), db) ∧
            (page p).1.length ≤ perPage ∧ ((page p).2.hasMore = true ↔ p < last) ∧
            (last < p → (page p).1 = []) ∧
            (page p).2.totalRows.map Int64.toInt =
              if r.withTotal then some (rows.length : Int) else none) ∧
        ((List.range last).flatMap fun i => (page (i + 1)).1) = rows := by
  intro rows perPage last
  obtain ⟨hleast, hgreatest⟩ := Window.toInt_perPage_bounds r.page r.perPage d
  have hperPage : 1 ≤ perPage ∧ perPage ≤ 200 := by
    have h200 : Window.greatestSize.toInt = 200 := rfl
    have h : perPage = (Window.ofRequest r.page r.perPage d).perPage.toInt.toNat := rfl
    omega
  have hlength : (rows.length : Int) ≤ Number.int64Greatest :=
    Int.le_trans hmatching (Int.sub_le_self _ (by decide))
  have htotal : (Int64.ofNat rows.length).toInt = rows.length := toInt_ofNat_le hlength
  -- with that many rows the number of pages can be told on every page
  have hroom : ∀ t ∈ (if r.withTotal then some (.ofNat rows.length) else none : Option Int64),
      0 ≤ t.toInt ∧ t.toInt ≤ Number.int64Greatest - 200 := by
    intro t ht
    split at ht
    · cases ht
      rw [htotal]
      exact ⟨Int.natCast_nonneg _, hmatching⟩
    · cases ht
  choose paging hpaging hmore htold using fun p : Nat => PageInfo.exists_ofWindow?
    (r.atPage (.ofNat p)).page (r.atPage (.ofNat p)).perPage d (Page.part perPage rows p).2 hroom
  refine ⟨hperPage.1, hperPage.2, fun p => ((Page.part perPage rows p).1, paging p),
    fun p hp hword => ⟨act_atPage hst hlength hp hword (hpaging p), Page.length_part_le _ _ _,
      ?_, Page.part_eq_nil hperPage.1, ?_⟩,
    Page.flatMap_part_lastPart hperPage.1⟩
  · show (paging p).hasMore = true ↔ p < last
    rw [hmore p]
    exact Page.part_snd_iff hperPage.1 hp
  · show (paging p).totalRows.map Int64.toInt = _
    rw [htold p]
    cases r.withTotal with
    | false => rfl
    | true => exact congrArg some htotal

/-- Three rows of tenant 42, two on a page; the row of tenant 7 among them is on no page. -/
theorem act_pages_two :
    let I : Interpretation Int :=
      { cast := fun b => match b.value with
          | .int i => some i.toInt
          | _ => none
        compare := fun _ x y => x = y
        resembles := fun _ _ => false
        order := fun _ x y => Ord.compare (y.getD 0) (x.getD 0)
        cell := fun _ v => .int .eight (.ofInt (v.getD 0))
        fresh := fun _ _ _ => none }
    let s : Script := { catalog := fun _ _ => .error .unreachable, replies := [] }
    let c : TableCache := { lifetime := TableCache.defaultLifetime }
    let t : TenantTable :=
      ⟨{ schema := "public", name := "notes", primaryKey := "id", columns := ["id", "company_id"] },
        ⟨"company_id", .int 42⟩⟩
    let r : Listing := { orderBy := [⟨"id", "desc"⟩], perPage := some 2, withTotal := true }
    let row (id company : Int) : Row Int := fun c =>
      if c = "id" then some id else if c = "company_id" then some company else none
    let db : Database Int := fun _ => [row 1 42, row 2 7, row 3 42, row 4 42]
    ∃ st, Page.statements t.table t.scope r (r.window 25) = .ok st ∧
      (I.matching db st.rows).length = 3 ∧
      ∃ first second : List Json × PageInfo,
        I.act s c (t.page (r.atPage 1) 25) db = (.ok first, db) ∧ first.2.hasMore = true ∧
        I.act s c (t.page (r.atPage 2) 25) db = (.ok second, db) ∧ second.2.hasMore = false ∧
        first.1 ++ second.1 = I.matching db st.rows := by
  intro I s c t r row db
  obtain ⟨st, hst⟩ : ∃ st, Page.statements t.table t.scope r (r.window 25) = .ok st := ⟨_, rfl⟩
  have hlength : (I.matching db st.rows).length = 3 := by
    rw [← length_matching hst]
    cases hst
    decide +kernel
  obtain ⟨-, -, page, hpage, hall⟩ := act_pages I s c t r 25 db hst (by rw [hlength]; decide)
  have hlast : max 1 (((I.matching db st.rows).length + (r.window 25).perPage.toInt.toNat - 1) /
      (r.window 25).perPage.toInt.toNat) = 2 := by rw [hlength]; decide
  rw [hlast] at hpage hall
  obtain ⟨hfirst, -, hmore, -⟩ := hpage 1 (by decide) (by decide)
  obtain ⟨hsecond, -, hend, -⟩ := hpage 2 (by decide) (by decide)
  refine ⟨st, hst, hlength, page 1, page 2, hfirst, hmore.2 (by decide), hsecond, ?_, ?_⟩
  · exact Bool.eq_false_iff.2 fun h => absurd (hend.1 h) (by decide)
  · rw [← hall]
    show _ = (page 1).1 ++ ((page 2).1 ++ [])
    rw [List.append_nil]

end Interpretation
end Data
end TenantGate
