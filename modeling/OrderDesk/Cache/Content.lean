/-!
The content of a database file. A file starts with a header, and its first page lists the tables.
Such a file is in use when it is whole, and it is new as long as it lists no table.
-/
namespace OrderDesk.Cache.Content

/-- A number of some bytes, the highest first. -/
def number (bs : List UInt8) (start size : Nat) : Nat :=
  ((bs.drop start).take size).foldl (fun n b => 256 * n + b.toNat) 0

/-- What a header starts with. -/
def magic : List UInt8 :=
  "SQLite format 3".toUTF8.toList ++ [0]

/-- The size of a page. -/
def pageSize (bs : List UInt8) : Nat :=
  256 * number bs 16 1 + 65536 * number bs 17 1

/-- The sizes that a page may have. -/
def pageSizes : List Nat :=
  [512, 1024, 2048, 4096, 8192, 16384, 32768, 65536]

/-- The number of bytes of a page that are used. -/
def usable (bs : List UInt8) : Nat :=
  pageSize bs - number bs 20 1

/-- The number of pages that bytes fill, the last one perhaps in part. -/
def pagesOf (bs : List UInt8) : Nat :=
  (bs.length + pageSize bs - 1) / pageSize bs

/-- Whether the header counts no more pages than there are. Its count holds only when it was made by
the last change. -/
def hasPages (bs : List UInt8) : Bool :=
  number bs 24 4 != number bs 92 4 || number bs 28 4 ≤ pagesOf bs

/-- Whether the header is that of a database that can be written. -/
def hasHeader (bs : List UInt8) : Bool :=
  magic.isPrefixOf bs && pageSizes.contains (pageSize bs) && 480 ≤ usable bs &&
    number bs 18 1 ≤ 2 && number bs 19 1 ≤ 2 && number bs 21 3 == 0x402020 && hasPages bs &&
    number bs 36 4 == 0 && number bs 44 4 ≤ 4 && number bs 52 4 ≤ pagesOf bs

/-- The start of the part of the first page that holds its entries. -/
def entriesStart (bs : List UInt8) : Nat :=
  if number bs 105 2 = 0 then 65536 else number bs 105 2

/-- Whether the first page is a plain list without any entry. -/
def hasEmptyList (bs : List UInt8) : Bool :=
  number bs 100 1 == 0x0D && number bs 101 2 == 0 && number bs 103 2 == 0 &&
    108 ≤ entriesStart bs + number bs 107 1 && entriesStart bs + number bs 107 1 ≤ usable bs

/-- Whether bytes are those of a database without tables, as which an empty file counts. -/
def isNew (bs : List UInt8) : Bool :=
  bs.isEmpty || (hasHeader bs && hasEmptyList bs)

end OrderDesk.Cache.Content
