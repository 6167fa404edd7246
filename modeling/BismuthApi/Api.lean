import BismuthApi.Ledger

/-!
# Handlers as trees of calls

A handler talks to the world only through calls: the session's `receive` and `send`, the ledger
store, the mempool, the peer registry and the address validator. It is written here as the tree
of those calls. Each call node waits for the world's answer, a value of the call's answer type
or the exception the collaborator raised, and Python's `try`/`except` is `tryCatch` on the tree.
The handlers then read as `do` blocks in the order of the source, and every property of them is
a property of all the paths through their trees.
-/

namespace BismuthApi

/-- The calls the handlers make. -/
inductive Call where
  /-- The session's `connections.receive(socket_handler)`. -/
  | receive
  /-- The session's `connections.send(socket_handler, v)`. -/
  | send (v : Json)
  /-- The store's `db_handler.block_height_max()`. -/
  | blockHeightMax
  /-- A SELECT over the transactions table, then `fetchall()`. -/
  | fetchRows (q : Select)
  /-- The difficulty SELECT over the misc table, then `fetchall()`. -/
  | fetchDifficulties (lo hi : ℚ)
  /-- An aggregate SELECT, then `fetchone()[0]`. -/
  | fetchTotal (q : Total)
  /-- The store's `db_handler.get_block_from_hash(h).to_blocks_dict()`. -/
  | blockFromHash (blockHash : Json)
  /-- The store's `db_handler.get_block(height).to_blocks_dict()`. -/
  | blockAt (height : Json)
  /-- The store's `db_handler.get_address_range(address, starting_block, limit)`, as
  `to_blocks_dict()` turns it into a dict. -/
  | addressRange (address startingBlock limit : Json)
  /-- The store's `db_handler.get_block_hash_for_height(h)`. -/
  | blockHashForHeight (height : ℚ)
  /-- The store's `db_handler.get_difficulty_for_height(h)`. -/
  | difficultyForHeight (height : Json)
  /-- The store's `db_handler.known_address(address)`. -/
  | knownAddress (address : Json)
  /-- The store's `db_handler.pubkeyget(address)`. -/
  | pubkeyget (address : Json)
  /-- Whether `mp.MEMPOOL is None`. -/
  | mempoolIsNone
  /-- The mempool's `mp.MEMPOOL.transactions_to_send()`. -/
  | transactionsToSend
  /-- The mempool's `mp.MEMPOOL.clear()`. -/
  | mempoolClear
  /-- The peer registry's `peers.consensus`, as `enumerate` lists it. -/
  | peersConsensus
  /-- The validator's `SignerFactory.address_is_valid(address)`. -/
  | addressIsValid (address : Json)

/-- What each call returns when it does not raise. -/
def Call.Answer : Call → Type
  | .receive => Json
  | .send _ => Unit
  | .blockHeightMax => Option Int
  | .fetchRows _ => List Row
  | .fetchDifficulties _ _ => List Json
  | .fetchTotal _ => Option ℚ
  | .blockFromHash _ => PyDict
  | .blockAt _ => PyDict
  | .addressRange _ _ _ => PyDict
  | .blockHashForHeight _ => Json
  | .difficultyForHeight _ => Json
  | .knownAddress _ => Json
  | .pubkeyget _ => Json
  | .mempoolIsNone => Bool
  | .transactionsToSend => Json
  | .mempoolClear => Unit
  | .peersConsensus => List Json
  | .addressIsValid _ => Bool

/-- A computation of a handler: done, raised, or waiting on a call. -/
inductive Api (α : Type) where
  | pure (a : α)
  | raise (e : Exc)
  | call (c : Call) (k : Except Exc c.Answer → Api α)

namespace Api

/-- Sequencing: run `f` on the value, pass an exception on. -/
def bind : Api α → (α → Api β) → Api β
  | .pure a, f => f a
  | .raise e, _ => .raise e
  | .call c k, f => .call c fun x => (k x).bind f

/-- Python's `try: x except Exception as e: h e`. -/
def tryCatch : Api α → (Exc → Api α) → Api α
  | .pure a, _ => .pure a
  | .raise e, h => h e
  | .call c k, h => .call c fun x => (k x).tryCatch h

instance : Monad Api where
  pure := .pure
  bind := bind

instance : MonadExcept Exc Api where
  throw := .raise
  tryCatch := tryCatch

theorem pure_eq (a : α) : (Pure.pure a : Api α) = .pure a := rfl

theorem bind_eq (x : Api α) (f : α → Api β) : x >>= f = x.bind f := rfl

theorem throw_eq (e : Exc) : (throw e : Api α) = .raise e := rfl

theorem tryCatch_eq (x : Api α) (h : Exc → Api α) :
    (MonadExcept.tryCatch x h : Api α) = x.tryCatch h := rfl

@[simp] theorem pure_bind (a : α) (f : α → Api β) : (Api.pure a).bind f = f a := rfl

@[simp] theorem raise_bind (e : Exc) (f : α → Api β) : (Api.raise e).bind f = .raise e := rfl

@[simp] theorem call_bind (c : Call) (k : Except Exc c.Answer → Api α) (f : α → Api β) :
    (Api.call c k).bind f = .call c fun x => (k x).bind f := rfl

theorem bind_pure (x : Api α) : x.bind .pure = x := by
  induction x with
  | pure => rfl
  | raise => rfl
  | call c k ih => exact congrArg (Api.call c) (funext ih)

theorem bind_assoc (x : Api α) (f : α → Api β) (g : β → Api γ) :
    (x.bind f).bind g = x.bind fun a => (f a).bind g := by
  induction x with
  | pure => rfl
  | raise => rfl
  | call c k ih => exact congrArg (Api.call c) (funext ih)

instance : LawfulMonad Api :=
  LawfulMonad.mk' Api (fun x => bind_pure x) (fun _ _ => rfl) bind_assoc

/-- A call, its exception raised again in the handler. -/
def perform (c : Call) : Api c.Answer := .call c fun
  | .ok a => .pure a
  | .error e => .raise e

/-- A Python operation that returns or raises. -/
def lift : Except Exc α → Api α
  | .ok a => .pure a
  | .error e => .raise e

theorem lift_ok (a : α) : lift (.ok a : Except Exc α) = .pure a := rfl

theorem lift_error (e : Exc) : lift (.error e : Except Exc α) = .raise e := rfl

end Api

/-- The session's `connections.receive(socket_handler)`. -/
def receive : Api Json := Api.perform .receive

/-- The session's `connections.send(socket_handler, v)`. -/
def send (v : Json) : Api Unit := Api.perform (.send v)

end BismuthApi
