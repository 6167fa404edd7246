import BismuthApi.Blocks
import BismuthApi.Api

/-!
# The API handlers

Each `api_` method of `ApiHandler`, as the tree of calls it makes, in the order of the source.
A handler reads its parameters from the session one `receive` at a time, converts them with
Python's operators, asks the store, the mempool, the peer registry or the address validator,
and sends its reply. The `try`/`except` blocks that only log and raise again are left out:
they change nothing a caller sees. `dispatch` looks the method up by name and turns any
exception into `False`.
-/

namespace BismuthApi

/-- The node configuration the handlers read: the storage mode, and the slots api_getconfig
lists (a slot that was never set has no value). -/
structure Config where
  legacyDb : Bool
  slots : List (String × Option Json)

/-! ## Python operators on received values -/

/-- `block_height_max()` as a Python value: None while the table is empty. -/
def heightValue : Option Int → Json
  | some m => .num m
  | none => .null

/-- Python's `a + b` on numbers. -/
def pyAdd (a b : Json) : Except Exc ℚ := do pure ((← pyNum a) + (← pyNum b))

/-- Python's `a - b` on numbers. -/
def pySub (a b : Json) : Except Exc ℚ := do pure ((← pyNum a) - (← pyNum b))

/-- Python's `a < b` on numbers. -/
def pyLt (a b : Json) : Except Exc Bool := do pure (decide ((← pyNum a) < (← pyNum b)))

/-- Python's `a + s` for a str `s`: only a str can be added to it. -/
def pyConcat : Json → String → Except Exc String
  | .str s, t => .ok (s ++ t)
  | _, _ => .error .typeError

/-- Python's `d[k]` on a value that should be a dict. -/
def Json.asDict : Json → Except Exc PyDict
  | .obj kvs => .ok (.ofFields kvs)
  | _ => .error .typeError

/-- `if minconf < 1: minconf = 1`. -/
def atLeastOne (minconf : Json) : Except Exc Json := do
  if ← pyLt minconf (.num 1) then pure (.num 1) else pure minconf

/-- `if limit > cap: limit = cap`. -/
def capped (cap : ℚ) (limit : Json) : Except Exc Json := do
  if ← pyLt (.num cap) limit then pure (.num cap) else pure limit

/-- `if not self.config.legacy_db: info = [Transaction.from_v2(tx).to_tuple() for tx in info]`. -/
def Config.sentRows (config : Config) (codec : Codec) (info : List Row) : List Row :=
  if !config.legacyDb then info.map fun tx => codec.toTuple (codec.fromV2 tx) else info

/-- `if not self.config.legacy_db: amount = amount / 100000000`. -/
def Config.scaled (config : Config) (amount : ℚ) : ℚ :=
  if !config.legacyDb then amount / 100000000 else amount

/-- A list of rows as fetchall returns it. -/
def rowsJson (rows : List Row) : Json := .arr (rows.map Row.toJson)

section Handlers
variable (config : Config) (codec : Codec)

/-! ## Mempool, configuration and liveness -/

def apiMempool : Api Unit := do
  let mempoolIsNone : Bool ← Api.perform .mempoolIsNone
  let responseTuples ← if mempoolIsNone then pure (.arr []) else Api.perform .transactionsToSend
  send responseTuples

def apiGetconfig : Api Unit := do
  let values ← Api.lift (config.slots.mapM fun slot => match slot.2 with
    | some v => .ok (slot.1, v)
    | none => .error .attributeError)
  send (.obj values)

def apiClearmempool : Api Unit := do
  Api.perform .mempoolClear
  send (.str "ok")

def apiPing : Api Unit := send (.str "api_pong")

/-! ## Addresses and single blocks -/

/-- The reply of api_getaddressinfo. -/
def addressInfo (known pubkey : Json) : Json := .obj [("known", known), ("pubkey", pubkey)]

/-- The inner `try` of api_getaddressinfo: `info` after the store's answers, as far as it
answered before it raised. -/
def storedInfo (address : Json) : Api Json := do
  try
    let known ← Api.perform (.knownAddress address)
    tryCatch (do pure (addressInfo known (← Api.perform (.pubkeyget address))))
      fun _ => pure (addressInfo known (.str ""))
  catch _ => pure (addressInfo (.bool false) (.str ""))

/-- The `try` block of api_getaddressinfo. -/
def addressInfoReply (address : Json) : Api Unit := do
  if !(← Api.perform (.addressIsValid address)) then
    send (addressInfo (.bool false) (.str ""))
  else
    send (← storedInfo address)

def apiGetaddressinfo : Api Unit := do
  let address ← receive
  try addressInfoReply address
  catch _ => pure ()

/-- Receive a key, ask the store for the blocks it names, send their dict. -/
def sendBlocksOf (fetch : Json → Api PyDict) : Api Unit := do
  let key ← receive
  let blocks ← fetch key
  send blocks.toJson

def apiGetblockfromhash : Api Unit :=
  sendBlocksOf fun blockHash => Api.perform (.blockFromHash blockHash)

/-- `list(blocks.values())[0]`. -/
def firstValue (blocks : PyDict) : Except Exc Json :=
  match blocks.entries.head? with
  | some (_, b) => .ok b
  | none => .error .indexError

def apiGetblockfromhashextra : Api Unit := do
  let blockHash ← receive
  let blocks ← Api.perform (.blockFromHash blockHash)
  let block ← Api.lift (firstValue blocks)
  let block ← Api.lift block.asDict
  let blockHeight ← Api.lift (block.get (.str "block_height"))
  let previous ← Api.perform (.blockHashForHeight (← Api.lift (pySub blockHeight (.num 1))))
  let block := block.put (.str "previous_block_hash") previous
  let next ← Api.perform (.blockHashForHeight (← Api.lift (pyAdd blockHeight (.num 1))))
  let block := block.put (.str "next_block_hash") next
  let difficulty ← Api.lift (pyInt (← Api.perform (.difficultyForHeight blockHeight)))
  let block := block.put (.str "difficulty") (.num difficulty)
  send block.toJson

def apiGetblockfromheight : Api Unit :=
  sendBlocksOf fun height => Api.perform (.blockAt height)

def apiGetaddressrange : Api Unit := do
  let address ← receive
  let startingBlock ← receive
  let limit ← Api.lift (capped 500 (← receive))
  let transactions ← Api.perform (.addressRange address startingBlock limit)
  send transactions.toJson

/-! ## Block ranges and windows -/

def apiGetblockrange : Api Unit := do
  let startBlock ← receive
  let limit ← Api.lift (capped 50 (← receive))
  let lo ← Api.lift (pyNum startBlock)
  let hi ← Api.lift (pyAdd startBlock limit)
  let rawTxs ← Api.perform (.fetchRows (.range lo hi))
  let rawDiffs ← Api.perform (.fetchDifficulties lo hi)
  let reply ← Api.lift (blocktojsondiffs codec rawTxs rawDiffs)
  send (.str reply.toJson.dumps)

/-- The lower edge: `max(db_handler.block_height_max()-11, since_height)`. -/
def sinceBound (tip : Option Int) (sinceHeight : Json) : Except Exc ℚ := do
  pure (max (← pySub (heightValue tip) (.num 11)) (← pyNum sinceHeight))

def apiGetblocksince : Api Unit := do
  let sinceHeight ← receive
  let blockHeight ← Api.lift (sinceBound (← Api.perform .blockHeightMax) sinceHeight)
  let info ← Api.perform (.fetchRows (.above blockHeight))
  send (rowsJson (config.sentRows codec info))

/-- The upper edge: `min(db_handler.block_height_max(), since_height+1440)`. -/
def likeBound (tip : Option Int) (sinceHeight : Int) : Except Exc ℚ := do
  pure (min (← pyNum (heightValue tip)) (sinceHeight + 1440))

def apiGetblockswhereoflike : Api Unit := do
  let sinceHeight ← Api.lift (pyInt (← receive))
  let whereOpenfieldLike ← Api.lift (pyConcat (← receive) "%")
  let blockHeight ← Api.lift (likeBound (← Api.perform .blockHeightMax) sinceHeight)
  let info ← Api.perform (.fetchRows (.openfieldLike sinceHeight blockHeight whereOpenfieldLike))
  send (.arr ((config.sentRows codec info).map Row.toJson ++ [.arr [.num blockHeight]]))

def apiGetblocksafterwhere : Api Unit := do
  let _sinceHeight ← receive
  let _whereConditions ← receive
  throw (.valueError "Unsafe, do not use yet")

/-- The upper edge: `min(db_handler.block_height_max() - min_confirmations, since_height+720)`. -/
def addressBound (tip : Option Int) (minConfirmations sinceHeight : Int) : Except Exc ℚ := do
  pure (min (← pySub (heightValue tip) (.num minConfirmations)) (sinceHeight + 720))

/-- The reply of api_getaddresssince. -/
def addressSinceReply (blockHeight : ℚ) (minConfirmations : Int) (info : List Row) : Json :=
  .obj [("last", .num blockHeight), ("minconf", .num minConfirmations),
    ("transactions", rowsJson info)]

def apiGetaddresssince : Api Unit := do
  let sinceHeight ← Api.lift (pyInt (← receive))
  let minConfirmations ← Api.lift (pyInt (← receive))
  let address := pyStr (← receive)
  let blockHeight ← Api.lift (addressBound (← Api.perform .blockHeightMax) minConfirmations sinceHeight)
  let info ← Api.perform (.fetchRows (.addressSince sinceHeight blockHeight address))
  send (addressSinceReply blockHeight minConfirmations (config.sentRows codec info))

/-! ## Balances and received totals -/

def getBalance (address minconf : Json) : Api ℚ := do
  let maxBlockHeight ← Api.lift (pySub (heightValue (← Api.perform .blockHeightMax)) minconf)
  let credit := (← Api.perform (.fetchTotal (.credit address maxBlockHeight))).getD 0
  let debit := (← Api.perform (.fetchTotal (.debit address maxBlockHeight))).getD 0
  pure (credit - debit)

def getReceived (address minconf : Json) : Api ℚ := do
  let maxBlockHeight ← Api.lift (pySub (heightValue (← Api.perform .blockHeightMax)) minconf)
  pure ((← Api.perform (.fetchTotal (.received address maxBlockHeight))).getD 0)

/-- The loop of api_getbalance and api_getreceived: add up one amount per listed address. -/
def totalOver (amountOf : Json → Json → Api ℚ) : Api Unit := do
  let addresses ← receive
  let minconf ← Api.lift (atLeastOne (← receive))
  let total ← (← Api.lift (pyIter addresses)).foldlM
    (fun total address => do pure (total + (← amountOf address minconf))) 0
  send (.num (config.scaled total))

def apiGetbalance : Api Unit := totalOver config getBalance

def apiGetreceived : Api Unit := totalOver config getReceived

/-- The loop of api_listreceived: test the amount, then scale it and store it. -/
def listOver (amountOf : Json → Json → Api ℚ) : Api Unit := do
  let addresses ← receive
  let minconf ← Api.lift (atLeastOne (← receive))
  let includeEmpty ← receive
  let received ← (← Api.lift (pyIter addresses)).foldlM (fun received address => do
      let temp ← amountOf address minconf
      if pyTruthy includeEmpty || decide (0 < temp) then
        Api.lift (received.set address (.num (config.scaled temp)))
      else pure received) PyDict.empty
  send received.toJson

def apiListreceived : Api Unit := listOver config getReceived

/-- api_listbalance scales each balance before it tests it. -/
def apiListbalance : Api Unit := do
  let addresses ← receive
  let minconf ← Api.lift (atLeastOne (← receive))
  let includeEmpty ← receive
  let balances ← (← Api.lift (pyIter addresses)).foldlM (fun balances address => do
      let temp := config.scaled (← getBalance address minconf)
      if pyTruthy includeEmpty || decide (0 < temp) then
        Api.lift (balances.set address (.num temp))
      else pure balances) PyDict.empty
  send balances.toJson

theorem Config.scaled_pos (config : Config) (amount : ℚ) :
    0 < config.scaled amount ↔ 0 < amount := by
  unfold Config.scaled
  split
  · exact div_pos_iff_of_pos_right (by norm_num)
  · rfl

/-- Scaling before the test, as api_listbalance does, keeps the same entries as testing first,
as api_listreceived does: api_listbalance is the listing loop over `_get_balance`. -/
theorem apiListbalance_eq_listOver : apiListbalance config = listOver config getBalance := by
  simp only [apiListbalance, listOver, Config.scaled_pos]

/-! ## Disabled and peer handlers -/

/-- The guard the transaction lookups raise before anything else. -/
def rewriteGuard : Api Unit := throw (.valueError "Do not use yet - Rewrite")

def apiGettransaction : Api Unit := rewriteGuard

def apiGettransactionbysignature : Api Unit := rewriteGuard

def apiGettransactionForRecipients : Api Unit := rewriteGuard

/-- The `try` block of api_getpeerinfo. -/
def peerInfoReply : Api Unit := do
  let consensus ← Api.perform .peersConsensus
  send (.arr (consensus.enum.map fun p =>
    .obj [("id", .num p.1), ("addr", p.2), ("inbound", .bool true)]))

def apiGetpeerinfo : Api Unit := do
  try peerInfoReply
  catch _ => pure ()

/-! ## Dispatch -/

/-- The `api_` methods of the class, by the names `getattr` finds them under. Every other
attribute either is missing, or is not callable with the three arguments dispatch passes, or
fails before it touches the session: dispatch answers `False` for all of them alike. -/
def handlers : List (String × Api Unit) :=
  [("api_mempool", apiMempool), ("api_getconfig", apiGetconfig config),
    ("api_clearmempool", apiClearmempool), ("api_ping", apiPing),
    ("api_getaddressinfo", apiGetaddressinfo), ("api_getblockfromhash", apiGetblockfromhash),
    ("api_getblockfromhashextra", apiGetblockfromhashextra),
    ("api_getblockfromheight", apiGetblockfromheight), ("api_getaddressrange", apiGetaddressrange),
    ("api_getblockrange", apiGetblockrange codec), ("api_getblocksince", apiGetblocksince config codec),
    ("api_getblockswhereoflike", apiGetblockswhereoflike config codec),
    ("api_getblocksafterwhere", apiGetblocksafterwhere),
    ("api_getaddresssince", apiGetaddresssince config codec),
    ("api_getbalance", apiGetbalance config), ("api_getreceived", apiGetreceived config),
    ("api_listreceived", apiListreceived config), ("api_listbalance", apiListbalance config),
    ("api_gettransaction", apiGettransaction),
    ("api_gettransactionbysignature", apiGettransactionbysignature),
    ("api_getpeerinfo", apiGetpeerinfo),
    ("api_gettransaction_for_recipients", apiGettransactionForRecipients)]

/-- `call = getattr(self, method)`, then `call(socket_handler, db_handler, peers)`. -/
def callMethod (method : String) : Api (Option Bool) :=
  match (handlers config codec).lookup method with
  | some call => do call; pure none
  | none => throw .attributeError

/-- `dispatch(method, ...)`: the handler's result, None, or False when anything raised. -/
def dispatch (method : String) : Api (Option Bool) := do
  try callMethod config codec method
  catch _ => pure (some false)

end Handlers

end BismuthApi
