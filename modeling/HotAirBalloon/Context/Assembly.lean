import HotAirBalloon.Memory.LongTerm
import HotAirBalloon.User.Authorization

/-!
# Context assembly

The context providers of `application/context` with the memory readers under them, the token
budget allocator and the assembler. A select whose `ORDER BY` leaves the order of rows open is
followed by the order in which the server happens to return them.
-/

namespace HotAirBalloon.Context

open Python Memory User

/-! ## Blocks -/

inductive ContextKind where
  | systemDirective
  | conversationSummary
  | recentTurn
  | retrievedDocument
  | userMemory
  | toolResult
  deriving DecidableEq

structure ContextBlock where
  kind : ContextKind
  content : String
  source : String
  tokenCount : Int := 0
  deriving DecidableEq

structure AssembledContext where
  blocks : List ContextBlock
  totalTokens : Int
  droppedBlockCount : Nat

structure ContextRequest where
  userQuery : String
  authorizationContext : AuthorizationContext
  recentTurns : List ConversationTurn := []

/-! ## Budget -/

structure TokenBudgetAllocator where
  kindShares : List (ContextKind × Int) := [
    (.systemDirective, 10),
    (.conversationSummary, 25),
    (.recentTurn, 35),
    (.retrievedDocument, 20),
    (.userMemory, 10),
    (.toolResult, 10)]

namespace TokenBudgetAllocator

variable (allocator : TokenBudgetAllocator)

/-- `self.kind_shares.get(kind, 0)`. -/
def share (kind : ContextKind) : Int := (allocator.kindShares.lookup kind).getD 0

/-- The order of the keys `(share, source, content)`, largest first. -/
def notBefore (a b : ContextBlock) : Bool :=
  allocator.share b.kind < allocator.share a.kind ∨
    (allocator.share a.kind = allocator.share b.kind ∧
      (b.source < a.source ∨ (a.source = b.source ∧ b.content ≤ a.content)))

def blockTokens (block : ContextBlock) : Int :=
  if max block.tokenCount 0 = 0 then max (splitWords block.content).length 1
  else max block.tokenCount 0

structure Allocation where
  selected : List ContextBlock := []
  usedTokens : Int := 0
  dropped : Nat := 0

/-- One round of the loop over the blocks. -/
def allocateBlock (totalBudget : Int) (a : Allocation) (block : ContextBlock) : Allocation :=
  if a.usedTokens + blockTokens block ≤ totalBudget then
    { a with
      selected := a.selected ++ [block]
      usedTokens := a.usedTokens + blockTokens block }
  else { a with dropped := a.dropped + 1 }

/-- `allocate`. -/
def allocate (blocks : List ContextBlock) (totalBudget : Int) : Allocation :=
  (blocks.mergeSort allocator.notBefore).foldl (allocateBlock totalBudget) {}

end TokenBudgetAllocator

/-! ## Readers -/

/-- An order in which a server may return rows. -/
structure RowOrder where
  rows : List AssistantMemoryRecord → List AssistantMemoryRecord
  perm : ∀ records, (rows records).Perm records

/-- One that agrees with `ORDER BY created_at DESC`. -/
structure NewestFirst extends RowOrder where
  sorted : ∀ records, (rows records).Pairwise (fun a b => b.createdAt ≤ a.createdAt)

/-- The active summaries of a user. -/
def isSummaryOf (ownerUserId : Uuid) (row : AssistantMemoryRecord) : Bool :=
  row.ownerUserId = some ownerUserId ∧ row.kind = "conversation_summary" ∧ isLive row

/-- The rows of `read_recent_user_memories`. -/
def recentUserMemories (order : NewestFirst) (t : Tables) (ownerUserId : Uuid) (limit : Int) :
    List AssistantMemoryRecord :=
  if limit ≤ 0 then []
  else ((order.rows (t.memories.rows.filter (isSummaryOf ownerUserId))).take limit.toNat).reverse

def readRecentUserMemories (order : NewestFirst) (t : Tables) (ownerUserId : Uuid) (limit : Int) :
    List String :=
  (recentUserMemories order t ownerUserId limit).map (·.content)

/-- The synchronised chunks with some vectors. -/
def isChunkOf (vectorIds : List String) (row : AssistantMemoryRecord) : Bool :=
  row.kind = "document_chunk" ∧ row.vectorId ∈ vectorIds ∧ isLive row ∧ row.syncedAt.isSome

/-- `set(row.required_permissions).issubset(permission_values)`. -/
def permitted (ctx : AuthorizationContext) (row : AssistantMemoryRecord) : Bool :=
  row.requiredPermissions.all (fun permission => permission ∈ ctx.permissions.map Permission.value)

/-- `allowed_rows`: of two rows with one vector the later one is kept. -/
def allowedRow? (ctx : AuthorizationContext) (rows : List AssistantMemoryRecord)
    (vectorId : String) : Option AssistantMemoryRecord :=
  (rows.filter (fun row => permitted ctx row && ctx.can .documentsRead row.siteCode)).reverse.find?
    (fun row => row.vectorId = vectorId)

/-- The rows of `read_document_chunks_by_vector_ids`. -/
def documentChunks (order : RowOrder) (t : Tables) (vectorIds : List String)
    (ctx : AuthorizationContext) : List AssistantMemoryRecord :=
  if vectorIds.isEmpty ∨ !ctx.can .documentsRead none then []
  else vectorIds.filterMap
    (allowedRow? ctx (order.rows (t.memories.rows.filter (isChunkOf vectorIds))))

def readDocumentChunksByVectorIds (order : RowOrder) (t : Tables) (vectorIds : List String)
    (ctx : AuthorizationContext) : List String :=
  (documentChunks order t vectorIds ctx).map (·.content)

/-- `PineconeDocumentMemoryReader`, with the embedding client and the vector index behind it. -/
structure DocumentMemoryReader (Vector : Type) where
  embed : String → Except PyError Vector
  queryIds : (vectorNamespace : String) → (values : Vector) → (limit : Int) →
    (metadataFilter : Dict Value) → Except PyError (List String)
  vectorNamespace : String

namespace DocumentMemoryReader

variable {Vector : Type} (reader : DocumentMemoryReader Vector)

/-- What the index answers to a query of an actor. -/
def vectorIds (query : String) (ctx : AuthorizationContext) (limit : Int) :
    Except PyError (List String) :=
  if limit ≤ 0 ∨ !ctx.can .documentsRead none then return []
  else do
    let vector ← reader.embed query
    reader.queryIds reader.vectorNamespace vector limit [("kind", .str "document_chunk")]

/-- `read_document_chunks`. -/
def readDocumentChunks (order : RowOrder) (t : Tables) (query : String) (ctx : AuthorizationContext)
    (limit : Int) : Except PyError (List String) := do
  let vectorIds ← reader.vectorIds query ctx limit
  return readDocumentChunksByVectorIds order t vectorIds ctx

end DocumentMemoryReader

/-! ## Providers -/

/-- `TokenCounterPort`, which may refuse a text. -/
abbrev TokenCounter := String → Except PyError Int

/-- A block of a provider. -/
def countedText (counter : TokenCounter) (kind : ContextKind) (source content : String) :
    Except PyError ContextBlock := do
  let tokenCount ← counter content
  return { kind := kind, content := content, source := source, tokenCount := tokenCount }

/-- `f"{turn.role}: {turn.content}"`. -/
def turnText (turn : ConversationTurn) : String := turn.role ++ ": " ++ turn.content

def RecentTurnsProvider.getBlocks (counter : TokenCounter) (turns : List ConversationTurn) :
    Except PyError (List ContextBlock) :=
  turns.mapM fun turn => countedText counter .recentTurn "recent_turns" (turnText turn)

def UserMemoryProvider.getBlocks (counter : TokenCounter) (memories : List String) :
    Except PyError (List ContextBlock) :=
  memories.mapM (countedText counter .userMemory "user_memory")

/-- `DocumentRecallProvider.get_blocks`, on what the reader returns or raises. -/
def DocumentRecallProvider.getBlocks (counter : TokenCounter) (ctx : AuthorizationContext)
    (chunks : Except PyError (List String)) : Except PyError (List ContextBlock) :=
  if !ctx.can .documentsRead none then return []
  else do
    (← chunks).mapM (countedText counter .retrievedDocument "document_recall")

/-! ## The assembler -/

structure DefaultContextAssembler where
  allocator : TokenBudgetAllocator := {}
  tokenCounter : TokenCounter
  totalBudget : Int := 8000

namespace DefaultContextAssembler

variable (assembler : DefaultContextAssembler)

/-- The loop over the results of the providers: a failed one is skipped. -/
def aggregate : List (Except PyError (List ContextBlock)) → Except PyError (List ContextBlock)
  | [] => return []
  | .ok blocks :: rest => do
    return blocks ++ (← aggregate rest)
  | .error e :: rest => if e.kind = "CancelledError" then throw e else aggregate rest

/-- The block with `token_count or token_counter.count(content)`. -/
def normalize (block : ContextBlock) : Except PyError ContextBlock :=
  if block.tokenCount = 0 then do
    let tokenCount ← assembler.tokenCounter block.content
    return { block with tokenCount := tokenCount }
  else return block

/-- `assemble`, on what the providers have returned or raised. -/
def assemble (results : List (Except PyError (List ContextBlock))) :
    Except PyError AssembledContext := do
  let aggregated ← aggregate results
  let normalized ← aggregated.mapM assembler.normalize
  let allocation := assembler.allocator.allocate normalized assembler.totalBudget
  return {
    blocks := allocation.selected
    totalTokens := (allocation.selected.map (·.tokenCount)).sum
    droppedBlockCount := allocation.dropped }

end DefaultContextAssembler

/-- The providers and the assembler, as `wiring.py` wires them, with one counter. -/
structure ContextAssembler (Vector : Type) where
  counter : TokenCounter
  /-- Counting awaits nothing, so nothing cancels it. -/
  notCancelled : ∀ text e, counter text = .error e → e.kind ≠ "CancelledError"
  userMemoryLimit : Int
  documentReader : DocumentMemoryReader Vector
  documentLimit : Int
  allocator : TokenBudgetAllocator := {}
  totalBudget : Int := 8000

namespace ContextAssembler

variable {Vector : Type} (assembler : ContextAssembler Vector)

/-- What the providers return or raise. -/
def results (newest : NewestFirst) (order : RowOrder) (t : Tables) (request : ContextRequest) :
    List (Except PyError (List ContextBlock)) := [
  RecentTurnsProvider.getBlocks assembler.counter request.recentTurns,
  UserMemoryProvider.getBlocks assembler.counter (readRecentUserMemories newest t
    request.authorizationContext.userId assembler.userMemoryLimit),
  DocumentRecallProvider.getBlocks assembler.counter request.authorizationContext
    (assembler.documentReader.readDocumentChunks order t request.userQuery
      request.authorizationContext assembler.documentLimit)]

/-- `assemble`. -/
def assemble (newest : NewestFirst) (order : RowOrder) (t : Tables) (request : ContextRequest) :
    Except PyError AssembledContext :=
  DefaultContextAssembler.assemble
    { allocator := assembler.allocator
      tokenCounter := assembler.counter
      totalBudget := assembler.totalBudget }
    (assembler.results newest order t request)

end ContextAssembler

end HotAirBalloon.Context
