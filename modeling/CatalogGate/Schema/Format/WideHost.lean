-- Host names with letters of all scripts. A part with such letters has a form in ASCII, which counts for the
-- lengths.
import CatalogGate.Schema.Format.Address
import CatalogGate.Text.Blank
import CatalogGate.Text.Punycode
import CatalogGate.Unicode.Property

namespace CatalogGate.Schema.WideHost

open Unicode

/-! ## Characters -/

def isSeparator (c : Char) : Bool := c == '.' || c == '\u3002' || c == '\uff0e' || c == '\uff61'

/-- Characters that a name is read without. -/
def ignored : CharSet :=
  .ofRanges
    [(0xAD, 0xAD), (0x34F, 0x34F), (0x180B, 0x180D), (0x180F, 0x180F), (0x200B, 0x200B), (0x2060, 0x2060),
      (0x2064, 0x2064), (0xFE00, 0xFE0F), (0xFEFF, 0xFEFF), (0xE0100, 0xE01EF)]

/-- Marks that take the vowel from the consonant before them. -/
def viramas : CharSet :=
  .ofRanges
    [(0x94D, 0x94D), (0x9CD, 0x9CD), (0xA4D, 0xA4D), (0xACD, 0xACD), (0xB4D, 0xB4D), (0xBCD, 0xBCD),
      (0xC4D, 0xC4D), (0xCCD, 0xCCD), (0xD3B, 0xD3C), (0xD4D, 0xD4D), (0xDCA, 0xDCA), (0xE3A, 0xE3A),
      (0xEBA, 0xEBA), (0xF84, 0xF84), (0x1039, 0x103A), (0x1714, 0x1715), (0x1734, 0x1734), (0x17D2, 0x17D2),
      (0x1A60, 0x1A60), (0x1B44, 0x1B44), (0x1BAA, 0x1BAB), (0x1BF2, 0x1BF3), (0x2D7F, 0x2D7F),
      (0xA806, 0xA806), (0xA82C, 0xA82C), (0xA8C4, 0xA8C4), (0xA953, 0xA953), (0xA9C0, 0xA9C0),
      (0xAAF6, 0xAAF6), (0xABED, 0xABED), (0x10A3F, 0x10A3F), (0x11046, 0x11046), (0x11070, 0x11070),
      (0x1107F, 0x1107F), (0x110B9, 0x110B9), (0x11133, 0x11134), (0x111C0, 0x111C0), (0x11235, 0x11235),
      (0x112EA, 0x112EA), (0x1134D, 0x1134D), (0x11442, 0x11442), (0x114C2, 0x114C2), (0x115BF, 0x115BF),
      (0x1163F, 0x1163F), (0x116B6, 0x116B6), (0x1172B, 0x1172B), (0x11839, 0x11839), (0x1193D, 0x1193E),
      (0x119E0, 0x119E0), (0x11A34, 0x11A34), (0x11A47, 0x11A47), (0x11A99, 0x11A99), (0x11C3F, 0x11C3F),
      (0x11D44, 0x11D45), (0x11D97, 0x11D97)]

/-- Characters that stand in no name: blanks, what cannot be seen, and what is not assigned. -/
def forbidden : CharSet := .union (Category.ofNames ["Zs", "Zl", "Zp", "Cc", "Cf", "Co"]) Category.unassigned

def script (name : String) : CharSet := (Script.find? name).getD .none

/-- Letters that are written from the right to the left. -/
def rightToLeft : CharSet := .unions (["hebr", "arab", "syrc", "thaa", "nkoo", "samr", "mand"].map script)

/-- Scripts whose letters are joined. -/
def joined : CharSet := .unions (["arab", "syrc", "mand", "nkoo", "mong", "phag"].map script)

/-! ## Rules for single characters -/

/-- Whether a character without a width may stand between others: behind the mark of a lost vowel, or, where
it keeps letters apart, between letters that are joined otherwise. -/
def mayStandBetween (c : Char) (before after : List Char) : Bool :=
  let letter := fun (cs : List Char) => (cs.dropWhile Category.mark.contains).head?
  before.head?.any viramas.contains
    || (c == '\u200c' && (letter before).any joined.contains && (letter after).any joined.contains)

/-- Whether a character may stand in a part with certain characters before it, the nearest one first, and
behind it. -/
def mayStand (part before : List Char) (c : Char) (after : List Char) : Bool :=
  let has := fun (set : CharSet) => part.any set.contains
  match c with
  | '\u200c' => mayStandBetween c before after
  | '\u200d' => mayStandBetween c before after
  | '\u00b7' => before.head? == some 'l' && after.head? == some 'l'
  | '\u0375' => after.head?.any (script "greek").contains
  | '\u05f3' => before.head?.any (script "hebrew").contains
  | '\u05f4' => before.head?.any (script "hebrew").contains
  | '\u30fb' => has (.unions [script "hiragana", script "katakana", script "han"])
  | '\u0640' => false
  | '\u07fa' => false
  | '\u302e' => false
  | '\u302f' => false
  | '\u303b' => false
  | _ =>
    if c.toNat < 0x80 then c.isAlphanum || c == '-'
    else if 0x3031 ≤ c.toNat && c.toNat ≤ 0x3035 then false
    else if 0x660 ≤ c.toNat && c.toNat ≤ 0x669 then !has (.range 0x6F0 0x6F9)
    else !forbidden.contains c

/-- Whether all characters of a part may stand where they stand. -/
def allStand (part before : List Char) : List Char → Bool
  | [] => true
  | c :: rest => mayStand part before c rest && allStand part (c :: before) rest

/-! ## Names -/

/-- Letters from the right to the left are not mixed with others, and one of them comes first. -/
def hasOneDirection (part : List Char) : Bool :=
  if part.any rightToLeft.contains then
    part.head?.any rightToLeft.contains
      && part.all fun c => rightToLeft.contains c || !Category.letter.contains c
  else true

/-- A part in which all characters stand for themselves. -/
def isPart (part : List Char) : Bool :=
  !part.isEmpty && part.head? != some '-' && part.getLast? != some '-' && (part.drop 2).take 2 != ['-', '-']
    && !part.head?.any Category.mark.contains && allStand part [] part && hasOneDirection part

def isAscii (part : List Char) : Bool := part.all (·.toNat < 0x80)

/-- The length of a part in ASCII. -/
def partSize (part : List Char) : Nat := if isAscii part then part.length else 4 + Text.Punycode.encodedLength part

/-- Whether a part is right in itself: what is written in ASCII for other characters has to stand for some. -/
def isWritten (part : List Char) : Bool :=
  match part with
  | 'x' :: 'n' :: '-' :: '-' :: rest =>
    match Text.Punycode.decode? rest with
    | some decoded => !isAscii decoded && isPart decoded
    | none => false
  | _ => isPart part

def isHostname (cs : List Char) : Bool :=
  let parts := (Text.lowerAscii (cs.filter (!ignored.contains ·))).splitOnP isSeparator
  let sizes := parts.map partSize
  parts.all isWritten && sizes.all (· ≤ 63) && sizes.foldl (· + · + 1) 0 ≤ 254

end CatalogGate.Schema.WideHost
