/-
# Names of calls

The path of a request names the service that is called and the method of it. Paths
that name no service are taken as methods of an unknown service, as they stand.
-/

namespace RpcBoundary

/-- The path of an address: without the part before it, and without what is asked of
it. An address with a host but nothing after it has the path of the root; a host
alone has no path. -/
def pathOf (target : String) : String :=
  let address := target.toList.takeWhile fun c => c != '?' && c != '#'
  if address.head? = some '/' || address = ['*'] then String.ofList address
  else
    match address.dropWhile (· != ':') with
    | ':' :: '/' :: '/' :: rest =>
      match rest.dropWhile (· != '/') with
      | [] => "/"
      | path => String.ofList path
    | _ => ""

/-- The service and the method of a call. -/
structure CallName where
  /-- The service, with its package. -/
  service : String
  /-- The method of the service. -/
  method : String
  deriving DecidableEq

namespace CallName

/-- The service of calls that name none. -/
def unknownService : String := "unknown"

/-- The name of the call to a path: after all slashes at the beginning comes the
service, up to the next slash, and then the method. -/
def ofPath (path : String) : CallName :=
  let trimmed := path.toList.dropWhile (· == '/')
  let service := trimmed.takeWhile (· != '/')
  match trimmed.dropWhile (· != '/') with
  | [] => ⟨unknownService, path⟩
  | _ :: method => ⟨String.ofList service, String.ofList method⟩

end CallName

end RpcBoundary
