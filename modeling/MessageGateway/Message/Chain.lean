import MessageGateway.Text.Integer

/-!
# Chains and registries

The names of the chains that messages travel between, and of the kinds of signer registries. A
chain may be given by its number or by a text that is read as one; a chain without a name is shown
as it was given. Since a number may have to be shown, only those that can be written have a name.

## Main definitions

* `MessageGateway.ChainId`, `MessageGateway.ChainId.name`.
* `MessageGateway.registryLabel`.
-/

namespace MessageGateway

/-- A chain as it is referred to. -/
inductive ChainId where
  | number (n : Integer.Writable)
  | text (s : String)
  | missing

namespace ChainId

/-- The chains with a name. -/
def named : List (Int × String) :=
  [(1, "Solana Testnet"), (2, "Ethereum"), (3, "Polygon"), (4, "BSC"), (5, "Avalanche")]

/-- The number of the chain, where what was given is one. -/
def number? : ChainId → Option Int
  | .number n => some n.val
  | .text s => Integer.parse? s
  | .missing => none

/-- The chain as it was given. -/
def shown : ChainId → String
  | .number n => Integer.render n
  | .text s => s
  | .missing => "None"

/-- The name of the chain. -/
def name (chain : ChainId) : String :=
  (chain.number?.bind fun n => named.lookup n).getD ("Chain " ++ chain.shown)

end ChainId

/-- The kinds of signer registries with a name. -/
def namedRegistries : List (Int × String) :=
  [(0, "VIA"), (1, "Chain"), (2, "Project")]

/-- The name of a kind of signer registry. -/
def registryLabel (n : Integer.Writable) : String :=
  (namedRegistries.lookup n.val).getD ("Unknown(" ++ Integer.render n ++ ")")

end MessageGateway
