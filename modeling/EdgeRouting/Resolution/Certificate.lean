import EdgeRouting.Ingress.Basic
import EdgeRouting.Proxy.Config
import EdgeRouting.Resolution.Plan

/-!
# Certificates of an ingress

The certificate of each TLS binding is always required: a secret that does not exist is a failure.
-/

namespace EdgeRouting

def tlsCertificateKey : String := "tls.crt"

def tlsPrivateKeyKey : String := "tls.key"

def TlsBinding.sniMatch (binding : TlsBinding) (secret : Secret) : SniMatch where
  hosts := binding.hosts
  certSource := binding.secret
  certificateChain := secret.bytes tlsCertificateKey
  privateKey := secret.bytes tlsPrivateKeyKey

namespace Plan

def certificate (binding : TlsBinding) : Plan SniMatch := do
  follow ⟨.secret, binding.secret⟩
  let secret ← need .secret (.secret binding.secret)
  return binding.sniMatch secret

end Plan

end EdgeRouting
