import TableQuery.Query.Basic
import TableQuery.Settings

/-! Paging: which part of the rows a query asks for, under the settings. -/

namespace TableQuery

namespace Query

/-- The most rows to read, if the query bounds them; never more than the settings allow. -/
def effectiveLimit (q : Query) (s : Settings) : Option Nat := q.limit.map fun n => min n s.maxLimit

/-- The page to read. -/
def effectivePage (q : Query) (s : Settings) : Nat := q.page.getD s.defaultPage

/-- The size of a page: as the query says, else its limit, else the default; never more than the
    settings allow. -/
def effectivePageSize (q : Query) (s : Settings) : Nat :=
  min ((q.pageSize.orElse fun _ => q.limit).getD s.defaultPageSize) s.maxLimit

end Query

/-- The last page of `total` rows in pages of `size`: the quotient, which is a floating-point number,
    rounded up, and never below one. `none` if the quotient is out of range. -/
def lastPage? (total size : Int) : Option Int :=
  if size ≤ 0 then some 1
  else (Double.ofQuotient total size.toNat).ceil?.map fun n => max 1 n

/-- One page of a longer result. -/
structure Pager (α : Type) where
  currentPage : Int
  total : Int
  lastPage : Int
  data : List α
  deriving Repr

end TableQuery
