import TraceViewer.Interval

/-!
# Pages

A remote sequence of `total` items is fetched in pages of `pageSize` items: page
`p` starts at item `p * pageSize`.  These functions relate pages to items and
intervals of items; they know nothing of what has been loaded.

Indices, totals and page sizes are natural numbers.  They stand for 64-bit words, and
every sum and product that is formed of them, the end `(p + 1) * pageSize` of a page
among them, is assumed to stay below `2 ^ 64`, so that nothing wraps around.
-/

namespace TraceViewer.Page

/-- The page that holds an item. -/
def ofIndex (index pageSize : Nat) : Nat := index / pageSize

/-- The number of pages that hold `total` items: the quotient, rounded up. -/
def count (total pageSize : Nat) : Nat := (total + pageSize - 1) / pageSize

/-- The number of items that a page holds once it is complete. -/
def capacity (page pageSize total : Nat) : Nat := min (total - page * pageSize) pageSize

/-- The items of a page, cut off at the end of the sequence. -/
def span (page pageSize total : Nat) : Interval where
  start := page * pageSize
  stop := max (min (page * pageSize + pageSize) total) (page * pageSize)

/-- The pages whose first item lies in an interval.  An empty interval still
names the page that starts where it starts, so that an empty reply to the
request of a page names that page. -/
def startingIn (interval : Interval) (pageSize : Nat) : Interval :=
  let first := count interval.start pageSize
  let stop :=
    if interval.start < interval.stop then (interval.stop - 1) / pageSize + 1
    else if interval.start % pageSize = 0 then first + 1
    else first
  ⟨first, max stop first⟩

/-- The intervals of items that cover a list of pages.  Pages past the end of the
sequence are left out, and a page that continues the one before it extends the
same interval. -/
def coalesce (pageSize total : Nat) : List Nat → List Interval
  | [] => []
  | page :: rest =>
    let items := span page pageSize total
    if items.isEmpty then coalesce pageSize total rest
    else
      match coalesce pageSize total rest with
      | next :: others =>
        if items.stop = next.start then ⟨items.start, next.stop⟩ :: others
        else items :: next :: others
      | [] => [items]

end TraceViewer.Page
