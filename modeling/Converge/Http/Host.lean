import Converge.Http.Address
import Converge.Http.Domain.Name

/-!
# Hosts

The host of a web URL is a domain name, an address of four numbers in any of its spellings, or an
address of eight numbers between brackets. A name that ends in a number has to be an address. The host
of any other URL is not read further. Each has one form in the URL.
-/

namespace Converge.Http

/-- The characters that no host holds. -/
def isForbidden (c : Char) : Bool :=
  c = '\x00' || c = '\t' || c = '\n' || c = '\x0d' || c = ' ' || "#/:<>?@[\\]^|".toList.contains c

def isForbiddenInDomain (c : Char) : Bool :=
  isForbidden c || c < ' ' || c = '%' || c = '\x7f'

/-- The form of an address between brackets, none if the second one is missing. -/
def bracketedText? (cs : List Char) : Option (List Char) :=
  if cs.getLast? = some ']' then
    (eightNumbers? cs.dropLast).map fun ns => ['['] ++ eightNumbersText ns ++ [']']
  else none

/-- The form of the host of a web URL, none if it is no host. -/
def hostText? (cs : List Char) : Option (List Char) :=
  match cs with
  | '[' :: rest => bracketedText? rest
  | cs => do
    let decoded ← String.fromUTF8? (ByteArray.mk (decode cs).toArray)
    let name ← Domain.ascii? decoded.toList
    if name.isEmpty || name.any isForbiddenInDomain then none
    else if endsInNumber name then (fourNumbers? name).map fourNumbersText
    else some name

/-- The form of the host of any other URL, which may be empty. -/
def opaqueHostText? (cs : List Char) : Option (List Char) :=
  match cs with
  | '[' :: rest => bracketedText? rest
  | cs => if cs.any isForbidden then none else some (encode isControlOrBeyond cs)

end Converge.Http
