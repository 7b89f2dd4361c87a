import CiWorkflow.Text.Class
import CiWorkflow.Text.Word

set_option autoImplicit false

namespace CiWorkflow.Generation

open Text

def isTag (c : Char) : Bool := isWord c || c == '-'

def dropOpening : List Char → List Char
  | '`' :: '`' :: '`' :: r => (r.dropWhile isTag).dropWhile isBlank
  | cs => cs

/-- Drops a closing fence, read from the end of the text, with the blanks in front of it. -/
def dropClosing (cs : List Char) : List Char :=
  match cs.reverse with
  | '`' :: '`' :: '`' :: r => (r.dropWhile isBlank).reverse
  | _ => cs

/-- Either fence is dropped also without the other one. -/
def stripFences (cs : List Char) : List Char := trim (dropClosing (dropOpening (trim cs)))

end CiWorkflow.Generation
