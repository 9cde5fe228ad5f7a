/-
# Domains

A domain is a sequence of labels with dots between them.  It may be written with any
characters; what counts is its form in ASCII (`toAscii?`), in which two domains that mean
the same are equal.

**From characters to labels.**  Every character is replaced by what it stands for, the text
is put into its composed form, and then it is cut at the dots.

**Labels that are written in ASCII already** start with `xn--`.  They have to be written as
this module writes them: there is a character beyond ASCII in them, every character stands
for itself, and the text is composed.

**What a label may not hold**: a mark at its start, a joiner where it makes no difference,
and directions that do not go together.  Some ASCII characters may not occur either: those
that have a meaning in an address.  An empty label is allowed.
-/
import TaskWatch.Text.Utf8
import TaskWatch.Url.Domain.Mapping
import TaskWatch.Url.Domain.Composition
import TaskWatch.Url.Domain.Direction
import TaskWatch.Url.Domain.Joiner
import TaskWatch.Url.Domain.Punycode

namespace TaskWatch.Url.Domain

/-- A character that no domain may hold. -/
def isForbidden (c : Char) : Bool :=
  c.toNat ≤ 0x20 || c.toNat = 0x7f ||
    ['%', '#', '/', ':', '<', '>', '?', '@', '[', '\\', ']', '^', '|'].contains c

def isAscii (cs : List Char) : Bool :=
  cs.all (·.toNat < 0x80)

/-- **The characters of a label** that may be written in ASCII. -/
def spelled? : List Char → Option (List Char)
  | 'x' :: 'n' :: '-' :: '-' :: cs => do
    let label ← Punycode.decode? cs
    if isAscii cs && cs.getLast? ≠ some '-' && !isAscii label && label.all isPlain &&
        compose label = label then
      some label
    else none
  | label => some label

/-- **A label with nothing in it that is not allowed**, its directions apart. -/
def isWellFormed (label : List Char) : Bool :=
  !label.head?.any isMark && joinersAllowed [] label

/-- A label in ASCII. -/
def labelToAscii (label : List Char) : List Char :=
  if isAscii label then label else 'x' :: 'n' :: '-' :: '-' :: Punycode.encode label

/-- **The labels of a domain.** -/
def labels? (cs : List Char) : Option (List (List Char)) := do
  let meant ← cs.mapM mapChar?
  let labels ← (Text.cut (· = '.') (compose meant.flatten)).mapM spelled?
  if labels.all isWellFormed && (!isMixed labels || labels.all isDirected) then some labels
  else none

/-- **A domain in ASCII form.** -/
def toAscii? (bytes : List UInt8) : Option (List Char) := do
  let text ← Text.Utf8.decode? bytes
  let name := Text.glue '.' ((← labels? text.toList).map labelToAscii)
  if name.any isForbidden then none else some name

end TaskWatch.Url.Domain
