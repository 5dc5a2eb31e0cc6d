namespace EnvTemplate

abbrev Bytes := List UInt8

instance instDecidableEqByteArray : DecidableEq ByteArray := ByteArray.instDecidableEq

end EnvTemplate
