import PolicyHost.Host.Explain
import PolicyHost.Host.Interleaving

set_option autoImplicit false

namespace PolicyHost

inductive Request where
  | load (path : String) (base : Option String)
  | loadTogether (path : String) (base : Option String) (callers : Nat)
  | evaluate (input : Json) (package rule : Option String)
  | explain (input : Json) (package rule : Option String) (options : Trace.Options)
  | unload (path : String)
  | clear
  | find (package : Option String)
  | lineMap (path : String)

inductive Reply where
  | loaded (result : Host.LoadResult)
  | loadedTogether (results : List Host.LoadResult)
  | evaluated (result : Except Failure Verdict)
  | explained (result : Except Failure Explained)
  | unloaded (found : Bool)
  | cleared
  | found (policy : Option Policy)
  | lineMap (m : LineMap)

namespace Host

def answer (s : Surroundings) (request : Request) (h : Host) : Reply × Host :=
  match request with
  | .load path base =>
      let (result, h) := (load s path base).run.run h
      (.loaded result, h)
  | .loadTogether path base callers =>
      let (results, h) := loadTogether s path base callers h
      (.loadedTogether results, h)
  | .evaluate input package rule => (.evaluated (h.evaluate input package rule), h)
  | .explain input package rule options =>
      let (result, h) := (explain s input package rule options).run.run h
      (.explained result, h)
  | .unload path =>
      let (found, h) := unload s path h
      (.unloaded found, h)
  | .clear => (.cleared, h.clear)
  | .find package => (.found (h.store.findByPackage? package), h)
  | .lineMap path =>
      let (m, h) := lineMap s path h
      (.lineMap m, h)

def after (h : Host) (requests : List (Surroundings × Request)) : Host :=
  requests.foldl (fun h turn => (h.answer turn.1 turn.2).2) h

end Host

end PolicyHost
