/-
Groups in the store.
-/
import Messenger.Store.Basic

namespace Messenger.Store

def saveGroup (store : Store) (group : Group) : Committed Unit :=
  ⟨(), { store with groups := store.groups.put group.id group }, [.group group.id]⟩

def group? (store : Store) (id : Identity) : Option Group := store.groups.get? id

end Messenger.Store
