import ScriptReplay.Session.Image

namespace ScriptReplay.Log

open Image (part)

structure Page where
  number : Nat
  pages : Nat
  bytes : Bytes

def sums (isHighFirst : Bool) (s : Nat × Nat) : Bytes → Nat × Nat
  | a :: b :: c :: d :: e :: f :: g :: h :: r =>
    let word (b : Bytes) : Nat := Image.number (if isHighFirst then b else b.reverse)
    let first := (s.1 + word [a, b, c, d] + s.2) % 4294967296
    sums isHighFirst (first, (s.2 + word [e, f, g, h] + first) % 4294967296) r
  | _ => s

structure Layout where
  isHighFirst : Bool
  pageSize : Nat
  mark : Bytes

def headLength : Nat := 24

def sound (layout : Layout) (left : Nat) (s : Nat × Nat) (b : Bytes) : List Page :=
  match left with
  | 0 => []
  | left + 1 =>
    let head := b.take headLength
    let page := (b.drop headLength).take layout.pageSize
    let s := sums layout.isHighFirst (sums layout.isHighFirst s (head.take 8)) page
    if (head.drop 8).take 8 ≠ layout.mark ∨ part head 0 4 = 0 ∨ (part head 16 4, part head 20 4) ≠ s
    then []
    else
      ⟨part head 0 4, part head 4 4, page⟩ ::
        sound layout left s (b.drop (headLength + layout.pageSize))

def complete (pages : List Page) : List Page :=
  (pages.reverse.dropWhile (·.pages == 0)).reverse

def headerLength : Nat := 32

def title : Nat := 0x377F0682

def version : Nat := 3007000

def ofBytes (b : Bytes) : Except SessionError (Layout × List Page) :=
  let header := b.take headerLength
  let layout : Layout := ⟨part header 0 4 % 2 == 1, part header 8 4, (header.drop 16).take 8⟩
  let s := sums layout.isHighFirst (0, 0) (header.take 24)
  let left := (b.length - headerLength) / (headLength + layout.pageSize)
  if part header 0 4 / 2 * 2 ≠ title ∨ !Image.pageSizes.contains layout.pageSize ∨
      (part header 24 4, part header 28 4) ≠ s ∨ left = 0 then .ok (layout, [])
  else if part header 4 4 ≠ version then .error Image.unopenable
  else .ok (layout, complete (sound layout left s (b.drop headerLength)))

def page (file : Array UInt8) (layout : Layout) (pages : List Page) (number : Nat) : Bytes :=
  match pages.reverse.find? (·.number == number) with
  | some p => p.bytes
  | none =>
    let start := (number - 1) * layout.pageSize
    ((file.extract start (start + layout.pageSize)).toList ++
      List.replicate layout.pageSize 0).take layout.pageSize

def applied (file log : Bytes) : Except SessionError Bytes :=
  match ofBytes log with
  | .error e => .error e
  | .ok (layout, pages) =>
    match pages.getLast? with
    | none => .ok file
    | some last =>
      .ok ((List.range last.pages).flatMap fun k => page file.toArray layout pages (k + 1))

end ScriptReplay.Log
