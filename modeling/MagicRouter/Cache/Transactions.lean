import MagicRouter.Library.Store
import MagicRouter.Types

/-! The cache of forwarded transactions (`cache/transactions.rs`). -/

namespace MagicRouter

open Library

structure ForwardedTransactions where
  cache : Store Signature RemoteHandle

namespace ForwardedTransactions

def empty : ForwardedTransactions := { cache := ∅ }

/-- `put_async` refuses a signature that is already there and may evict another
one to make room; its result is discarded. -/
def track (transactions : ForwardedTransactions) (signature : Signature) (handle : RemoteHandle)
    (evicted : Option Signature) : ForwardedTransactions :=
  { cache := transactions.cache.insertEvicting signature handle evicted }

def get (transactions : ForwardedTransactions) (signature : Signature) : Option RemoteHandle :=
  transactions.cache.lookup signature

end ForwardedTransactions

end MagicRouter
