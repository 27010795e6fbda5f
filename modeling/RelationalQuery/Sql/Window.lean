/-! The part of a result that one page shows, in 64-bit words. -/
namespace RelationalQuery.Sql

structure Window where
  limit : UInt64
  offset : UInt64
deriving DecidableEq

def saturatingMul (a b : UInt64) : UInt64 :=
  if a.toNat * b.toNat < UInt64.size then a * b else 0xffffffffffffffff

namespace Window

/-- Pages count from one; page zero is the first. -/
def ofPage (page perPage : UInt64) : Window :=
  { limit := perPage, offset := saturatingMul (max page 1 - 1) perPage }

def sql (w : Window) : String := s!" LIMIT {w.limit} OFFSET {w.offset}"

/-- At least one page, also for no rows. -/
def totalPages (w : Window) (total : UInt64) : UInt64 :=
  if w.limit = 0 then 1
  else max (total / w.limit + (if total % w.limit = 0 then 0 else 1)) 1

def currentPage (w : Window) : UInt64 := if w.limit = 0 then 1 else w.offset / w.limit + 1

def hasNext (w : Window) (total : UInt64) : Bool := w.currentPage < w.totalPages total

def hasPrevious (w : Window) : Bool := 0 < w.offset

def first? (w : Window) (rows : UInt64) : Option UInt64 :=
  if 0 < rows then some (w.offset + 1) else none

def last? (w : Window) (rows : UInt64) : Option UInt64 :=
  (w.first? rows).map fun first => first + rows - 1

end Window
end RelationalQuery.Sql
