import EventChain.Chain
import EventChain.Field.Scalar

/-!
# Chain documents

A chain and its nodes as one document. `Document.chain` and `Document.node` read it, with
every fault found in it. A key of two words may be written in either of two ways.
-/

namespace EventChain.Document

open EventChain.Field

def textOrNull (v : Value) : Checked Value := Value.ofText? <$> nullable (single text) v

/-- Reads a node of a chain. -/
def node (chain : Value) : Value → Checked Node :=
  object fun r =>
    (fun id type name config next => ⟨id, chain, .text type, name, config, next⟩)
      <$> read r ["id"] none identifier
      <*> read r ["type"] none (single text)
      <*> read r ["name"] (some .null) textOrNull
      <*> read r ["config"] (some .null) .valid
      <*> read r ["nextNodeId", "next_node_id"] (some .null)
        (fun v => (·.getD .null) <$> nullable identifier v)

/-- Reads a chain, its nodes being told its identifier. -/
def chain : Value → Checked (Chain × List Node) :=
  object fun r =>
    (fun id name description tenant enabled priority attempts delay nodes =>
      (⟨id, .text name, tenant, .boolean enabled, .int priority,
          ⟨.int attempts, .number (.float delay)⟩, description⟩,
        nodes.map fun n : Node => { n with chain := id }))
      <$> read r ["id"] none identifier
      <*> read r ["name"] none (single text)
      <*> read r ["description"] (some .null) textOrNull
      <*> read r ["organizationId", "organization_id"] (some .null)
        (fun v => (fun n => (n.map Value.int).getD .null) <$> nullable (single integer) v)
      <*> read r ["enabled"] (some true) (single boolean)
      <*> read r ["priority"] (some 0) (single integer)
      <*> read r ["maxRetries", "max_retries"] (some 1) (single (integerFrom 1))
      <*> read r ["retryDelay", "retry_delay"] (some .zero) (single floatFromZero)
      <*> read r ["nodes"] (some []) (array (node .null))

end EventChain.Document
