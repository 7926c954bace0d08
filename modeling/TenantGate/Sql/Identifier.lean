/-!
# SQL identifiers

A plain identifier is an ASCII letter or underscore followed by ASCII letters, digits and
underscores. In a statement every identifier stands between double quotes, with a quote inside it
written twice.
-/

namespace TenantGate.Sql

def isIdentStart (c : Char) : Bool := c.isAlpha || c = '_'

/-- A character that may go on a plain identifier. -/
def isIdentPart (c : Char) : Bool := c.isAlphanum || c = '_'

def isIdentifier (s : String) : Bool :=
  match s.toList with
  | [] => false
  | c :: cs => isIdentStart c && cs.all isIdentPart

/-- Write every double quote twice. -/
def doubleQuotes : List Char → List Char
  | [] => []
  | c :: cs => if c = '"' then '"' :: '"' :: doubleQuotes cs else c :: doubleQuotes cs

/-- A name between double quotes. -/
def quoteChars (cs : List Char) : List Char := '"' :: (doubleQuotes cs ++ ['"'])

def quoteName (s : String) : String := String.ofList (quoteChars s.toList)

def qualifiedName (schema table : String) : String := quoteName schema ++ "." ++ quoteName table

end TenantGate.Sql
