/-! # Kinds of documents

The business documents that a template can produce. Five kinds are known by name, in any case; any
other name is a kind of its own and kept as it is.
-/

namespace Stencil

/-- A kind of document. -/
inductive Kind where
  | invoice
  | proposal
  | contract
  | estimate
  | receipt
  | other (name : String)
deriving DecidableEq, Repr

namespace Kind

/-- The kinds that come with a template. -/
def builtIn : List Kind := [invoice, proposal, contract, estimate, receipt]

/-- The name of a kind. -/
def name : Kind → String
  | invoice => "invoice"
  | proposal => "proposal"
  | contract => "contract"
  | estimate => "estimate"
  | receipt => "receipt"
  | other name => name

/-- Whether a kind is one of the five. -/
def isKnown : Kind → Bool
  | other _ => false
  | _ => true

/-- The kind with a name. -/
def ofName (name : String) : Kind :=
  let lower := String.ofList (name.toList.map Char.toLower)
  (builtIn.find? (·.name = lower)).getD (other name)

end Kind

end Stencil
