/-!
# Numbers

Functions of numbers, exact quotients and chance.
-/

namespace BuiltinWrappers.Script.Indented.Library

/-- Functions of numbers. -/
def functionsOfNumbers : String := r#"
  |from _reals import (sqrt, cbrt, exp, exp2, log2 as _log2, log10 as _log10, sin, cos, tan, asin,
  |                    acos, atan, sinh, cosh, tanh, asinh, acosh, atanh, atan2, pow, fmod,
  |                    log as _log, bits as _bits, of_bits as _of_bits)
  |pi = 3.141592653589793
  |e = 2.718281828459045
  |tau = 6.283185307179586
  |inf = float('inf')
  |nan = float('nan')
  |
  |def _scaled(x, function, per_bit):
  |    if isinstance(x, int) and x.bit_length() > 1000:
  |        shift = x.bit_length() - 60
  |        return function(x >> shift) + shift * per_bit
  |    return function(x)
  |
  |def log(x, base=None):
  |    found = _scaled(x, _log, 0.6931471805599453)
  |    return found if base is None else found / _scaled(base, _log, 0.6931471805599453)
  |
  |def log2(x):
  |    return _scaled(x, _log2, 1.0)
  |
  |def log10(x):
  |    return _scaled(x, _log10, 0.30102999566398120)
  |
  |def log1p(x):
  |    if x <= -1:
  |        raise ValueError('math domain error')
  |    u = 1.0 + x
  |    return float(x) if u == 1.0 else _log(u) * x / (u - 1.0)
  |
  |def expm1(x):
  |    u = exp(x)
  |    if u == 1.0:
  |        return float(x)
  |    return -1.0 if u - 1.0 == -1.0 else (u - 1.0) * x / _log(u)
  |
  |def floor(x):
  |    if isinstance(x, int):
  |        return int(x)
  |    if not isinstance(x, float):
  |        made = getattr(type(x), '__floor__', None)
  |        if made is not None:
  |            return made(x)
  |        x = float(x)
  |    n = int(x)
  |    return n - 1 if n > x else n
  |
  |def ceil(x):
  |    if isinstance(x, int):
  |        return int(x)
  |    if not isinstance(x, float):
  |        made = getattr(type(x), '__ceil__', None)
  |        if made is not None:
  |            return made(x)
  |        x = float(x)
  |    n = int(x)
  |    return n + 1 if n < x else n
  |
  |def trunc(x):
  |    if isinstance(x, (int, float)):
  |        return int(x)
  |    return x.__trunc__()
  |
  |def fabs(x):
  |    return abs(float(x))
  |
  |def copysign(x, y):
  |    size = abs(float(x))
  |    return -size if _bits(float(y)) >> 63 else size
  |
  |def isnan(x):
  |    x = float(x)
  |    return x != x
  |
  |def isinf(x):
  |    return float(x) in (inf, -inf)
  |
  |def isfinite(x):
  |    x = float(x)
  |    return x == x and x not in (inf, -inf)
  |
  |def isclose(a, b, *, rel_tol=1e-09, abs_tol=0.0):
  |    if rel_tol < 0.0 or abs_tol < 0.0:
  |        raise ValueError('tolerances must be non-negative')
  |    if a == b:
  |        return True
  |    if a in (inf, -inf) or b in (inf, -inf):
  |        return False
  |    diff = abs(b - a)
  |    return diff <= abs(rel_tol * b) or diff <= abs(rel_tol * a) or diff <= abs_tol
  |
  |def degrees(x):
  |    return x * (180.0 / pi)
  |
  |def radians(x):
  |    return x * (pi / 180.0)
  |
  |def factorial(n):
  |    n = _index(n)
  |    if n < 0:
  |        raise ValueError('factorial() not defined for negative values')
  |    return prod(range(1, n + 1))
  |
  |def _index(n):
  |    if isinstance(n, int):
  |        return int(n)
  |    made = getattr(type(n), '__index__', None)
  |    if made is None:
  |        raise TypeError("'%s' object cannot be interpreted as an integer" % type(n).__name__)
  |    return made(n)
  |
  |def gcd(*integers):
  |    found = 0
  |    for n in integers:
  |        n = abs(_index(n))
  |        while n:
  |            found, n = n, found % n
  |    return found
  |
  |def lcm(*integers):
  |    found = 1
  |    for n in integers:
  |        n = abs(_index(n))
  |        if n == 0:
  |            return 0
  |        found = found // gcd(found, n) * n
  |    return found
  |
  |def comb(n, k):
  |    n, k = _index(n), _index(k)
  |    if n < 0:
  |        raise ValueError('n must be a non-negative integer')
  |    if k < 0:
  |        raise ValueError('k must be a non-negative integer')
  |    if k > n:
  |        return 0
  |    k = min(k, n - k)
  |    found = 1
  |    for i in range(1, k + 1):
  |        found = found * (n - k + i) // i
  |    return found
  |
  |def perm(n, k=None):
  |    n = _index(n)
  |    if k is None:
  |        return factorial(n)
  |    k = _index(k)
  |    if n < 0:
  |        raise ValueError('n must be a non-negative integer')
  |    if k < 0:
  |        raise ValueError('k must be a non-negative integer')
  |    return prod(range(n - k + 1, n + 1)) if k <= n else 0
  |
  |def isqrt(n):
  |    n = _index(n)
  |    if n < 0:
  |        raise ValueError('isqrt() argument must be nonnegative')
  |    if n == 0:
  |        return 0
  |    x = 1 << (n.bit_length() + 1) // 2
  |    while True:
  |        y = (x + n // x) // 2
  |        if y >= x:
  |            return x
  |        x = y
  |
  |def prod(iterable, *, start=1):
  |    for x in iterable:
  |        start = start * x
  |    return start
  |
  |def sumprod(p, q):
  |    p, q = list(p), list(q)
  |    if len(p) != len(q):
  |        raise ValueError('Inputs are not the same length')
  |    return sum(x * y for x, y in zip(p, q))
  |
  |def fsum(seq):
  |    n, d = 0, 1
  |    special = 0.0
  |    for x in seq:
  |        x = float(x)
  |        if not isfinite(x):
  |            special += x
  |            continue
  |        a, b = x.as_integer_ratio()
  |        if d >= b:
  |            n += a * (d // b)
  |        else:
  |            n = n * (b // d) + a
  |            d = b
  |    if special != 0.0:
  |        return special
  |    return n / d
  |
  |def hypot(*coordinates):
  |    values = [abs(float(x)) for x in coordinates]
  |    if not values:
  |        return 0.0
  |    if inf in values:
  |        return inf
  |    for x in values:
  |        if x != x:
  |            return nan
  |    return _root(sum(_square(x) for x in values))
  |
  |def _square(x):
  |    from fractions import Fraction
  |    return Fraction(*x.as_integer_ratio()) ** 2
  |
  |def _root(square):
  |    n, d = square.numerator, square.denominator
  |    if n == 0:
  |        return 0.0
  |    shift = max(0, 130 - n.bit_length() + d.bit_length())
  |    shift += shift & 1
  |    root = isqrt((n << shift) // d)
  |    return root / (1 << shift // 2) if shift else float(root)
  |
  |def dist(p, q):
  |    if len(p) != len(q):
  |        raise ValueError('both points must have the same number of dimensions')
  |    return hypot(*[a - b for a, b in zip(p, q)])
  |
  |def modf(x):
  |    x = float(x)
  |    if x in (inf, -inf):
  |        return (copysign(0.0, x), x)
  |    if x != x:
  |        return (x, x)
  |    whole = copysign(float(int(x)), x)
  |    return (copysign(x - whole, x), whole)
  |
  |def frexp(x):
  |    x = float(x)
  |    if x == 0.0 or not isfinite(x):
  |        return (x, 0)
  |    n, d = x.as_integer_ratio()
  |    exponent = abs(n).bit_length() - d.bit_length() + 1
  |    m = ldexp(x, -exponent)
  |    if abs(m) < 0.5:
  |        exponent -= 1
  |        m = ldexp(x, -exponent)
  |    elif abs(m) >= 1.0:
  |        exponent += 1
  |        m = ldexp(x, -exponent)
  |    return (m, exponent)
  |
  |def ldexp(x, i):
  |    x = float(x)
  |    if x == 0.0 or not isfinite(x):
  |        return x
  |    n, d = x.as_integer_ratio()
  |    try:
  |        return n * (1 << i) / d if i >= 0 else n / (d << -i)
  |    except OverflowError:
  |        raise OverflowError('math range error') from None
  |
  |def nextafter(x, y, *, steps=None):
  |    x, y = float(x), float(y)
  |    if x != x or y != y:
  |        return nan
  |    for i in range(1 if steps is None else steps):
  |        if x == y:
  |            return y
  |        if x == 0.0:
  |            x = copysign(5e-324, y)
  |        else:
  |            x = _of_bits(_bits(x) + (1 if (y > x) == (x > 0.0) else -1))
  |    return x
  |
  |def ulp(x):
  |    x = abs(float(x))
  |    if x != x or x == inf:
  |        return x
  |    after = nextafter(x, inf)
  |    return x - nextafter(x, 0.0) if after == inf else after - x
  |
  |def remainder(x, y):
  |    x, y = float(x), float(y)
  |    if y == 0.0 or x in (inf, -inf):
  |        raise ValueError('math domain error')
  |    if y in (inf, -inf):
  |        return x
  |    a, b = x.as_integer_ratio()
  |    c, d = y.as_integer_ratio()
  |    n, m = a * d, b * c
  |    if m < 0:
  |        n, m = -n, -m
  |    q, r = divmod(n, m)
  |    if 2 * r > m or 2 * r == m and q & 1:
  |        r -= m
  |    found = r / (b * d)
  |    return copysign(0.0, x) if found == 0.0 else found
  |
  |def gamma(x):
  |    x = float(x)
  |    if x == inf:
  |        return x
  |    if x == -inf or x <= 0.0 and x == int(x):
  |        raise ValueError('math domain error')
  |    if x == int(x) and x < 172:
  |        return float(factorial(int(x) - 1))
  |    if x < 0.5:
  |        return pi / (sin(pi * x) * gamma(1.0 - x))
  |    return exp(lgamma(x))
  |
  |_lanczos = (0.99999999999980993, 676.5203681218851, -1259.1392167224028, 771.32342877765313,
  |            -176.61502916214059, 12.507343278686905, -0.13857109526572012,
  |            9.9843695780195716e-6, 1.5056327351493116e-7)
  |
  |def lgamma(x):
  |    x = float(x)
  |    if x in (1.0, 2.0):
  |        return 0.0
  |    if x < 0.5:
  |        if x == int(x):
  |            raise ValueError('math domain error')
  |        return _log(abs(pi / (sin(pi * x)))) - lgamma(1.0 - x)
  |    x -= 1.0
  |    total = _lanczos[0]
  |    for i in range(1, 9):
  |        total += _lanczos[i] / (x + i)
  |    t = x + 7.5
  |    return 0.5 * _log(2 * pi) + (x + 0.5) * _log(t) - t + _log(total)
  |
  |def erf(x):
  |    x = float(x)
  |    if x != x:
  |        return x
  |    if abs(x) > 6.0:
  |        return copysign(1.0, x)
  |    if abs(x) < 2.5:
  |        total = term = x
  |        n = 0
  |        while abs(term) > 1e-18 * abs(total):
  |            n += 1
  |            term *= -x * x / n
  |            total += term / (2 * n + 1)
  |            if total == 0.0:
  |                break
  |        return total * 1.1283791670955126
  |    return copysign(1.0 - erfc(abs(x)), x)
  |
  |def erfc(x):
  |    x = float(x)
  |    if x < 2.5:
  |        return 1.0 - erf(x)
  |    if x > 27.0:
  |        return 0.0
  |    f = 0.0
  |    for n in range(60, 0, -1):
  |        f = n / 2.0 / (x + f)
  |    return exp(-x * x) / 1.7724538509055159 / (x + f)"#

def numberKinds : String := r#"
  |from abc import ABCMeta
  |
  |class Number(metaclass=ABCMeta):
  |    __hash__ = None
  |
  |class Complex(Number):
  |    pass
  |
  |class Real(Complex):
  |    pass
  |
  |class Rational(Real):
  |    def __float__(self):
  |        return int(self.numerator) / int(self.denominator)
  |
  |class Integral(Rational):
  |    pass
  |
  |Integral.register(int)
  |Real.register(float)"#

/-- Exact quotients. -/
def quotients : String := r#"
  |import numbers
  |import re
  |from math import gcd as _gcd
  |
  |_form = re.compile(r'\s*(?P<sign>[-+]?)(?=\d|\.\d)(?P<num>\d*|\d+(_\d+)*)'
  |                   r'(?:\s*/\s*(?P<denom>\d+(_\d+)*))?(?:\.(?P<decimal>\d*|\d+(_\d+)*))?'
  |                   r'(?:E(?P<exp>[-+]?\d+(_\d+)*))?\s*', re.IGNORECASE)
  |
  |class Fraction(numbers.Rational):
  |    def __new__(cls, numerator=0, denominator=None):
  |        self = object.__new__(cls)
  |        if denominator is None:
  |            if isinstance(numerator, int):
  |                n, d = int(numerator), 1
  |            elif isinstance(numerator, numbers.Rational):
  |                n, d = numerator.numerator, numerator.denominator
  |            elif isinstance(numerator, float) or hasattr(numerator, 'as_integer_ratio'):
  |                n, d = numerator.as_integer_ratio()
  |            elif isinstance(numerator, str):
  |                n, d = _read(numerator)
  |            else:
  |                raise TypeError('argument should be a string or a Rational instance')
  |        elif isinstance(numerator, int) and isinstance(denominator, int):
  |            n, d = int(numerator), int(denominator)
  |        elif isinstance(numerator, (int, numbers.Rational)) \
  |                and isinstance(denominator, (int, numbers.Rational)):
  |            n = numerator.numerator * denominator.denominator
  |            d = denominator.numerator * numerator.denominator
  |        else:
  |            raise TypeError('both arguments should be Rational instances')
  |        if d == 0:
  |            raise ZeroDivisionError('Fraction(%s, 0)' % n)
  |        g = _gcd(n, d)
  |        if d < 0:
  |            g = -g
  |        self.numerator = n // g
  |        self.denominator = d // g
  |        return self
  |    def __init__(self, numerator=0, denominator=None):
  |        pass
  |    @classmethod
  |    def from_float(cls, f):
  |        return cls(f)
  |    @classmethod
  |    def from_decimal(cls, dec):
  |        return cls(*dec.as_integer_ratio())
  |    def is_integer(self):
  |        return self.denominator == 1
  |    def as_integer_ratio(self):
  |        return (self.numerator, self.denominator)
  |    def limit_denominator(self, max_denominator=1000000):
  |        if max_denominator < 1:
  |            raise ValueError('max_denominator should be at least 1')
  |        if self.denominator <= max_denominator:
  |            return Fraction(self)
  |        p0, q0, p1, q1 = 0, 1, 1, 0
  |        n, d = self.numerator, self.denominator
  |        while True:
  |            a = n // d
  |            q2 = q0 + a * q1
  |            if q2 > max_denominator:
  |                break
  |            p0, q0, p1, q1 = p1, q1, p0 + a * p1, q2
  |            n, d = d, n - a * d
  |        k = (max_denominator - q0) // q1
  |        bound1 = Fraction(p0 + k * p1, q0 + k * q1)
  |        bound2 = Fraction(p1, q1)
  |        return bound2 if abs(bound2 - self) <= abs(bound1 - self) else bound1
  |    def __repr__(self):
  |        return 'Fraction(%s, %s)' % (self.numerator, self.denominator)
  |    def __str__(self):
  |        if self.denominator == 1:
  |            return str(self.numerator)
  |        return '%s/%s' % (self.numerator, self.denominator)
  |    def __format__(self, spec):
  |        if not spec:
  |            return str(self)
  |        return format(float(self), spec)
  |    def _with(self, other, exact, real):
  |        if isinstance(other, Fraction):
  |            return exact(self, other)
  |        if isinstance(other, int):
  |            return exact(self, Fraction(other))
  |        if isinstance(other, float):
  |            return real(float(self), other)
  |        return NotImplemented
  |    def __add__(self, other):
  |        return self._with(other, _add, lambda a, b: a + b)
  |    def __radd__(self, other):
  |        return self._with(other, lambda a, b: _add(b, a), lambda a, b: b + a)
  |    def __sub__(self, other):
  |        return self._with(other, _sub, lambda a, b: a - b)
  |    def __rsub__(self, other):
  |        return self._with(other, lambda a, b: _sub(b, a), lambda a, b: b - a)
  |    def __mul__(self, other):
  |        return self._with(other, _mul, lambda a, b: a * b)
  |    def __rmul__(self, other):
  |        return self._with(other, lambda a, b: _mul(b, a), lambda a, b: b * a)
  |    def __truediv__(self, other):
  |        return self._with(other, _div, lambda a, b: a / b)
  |    def __rtruediv__(self, other):
  |        return self._with(other, lambda a, b: _div(b, a), lambda a, b: b / a)
  |    def __floordiv__(self, other):
  |        return self._with(other, _floor, lambda a, b: a // b)
  |    def __rfloordiv__(self, other):
  |        return self._with(other, lambda a, b: _floor(b, a), lambda a, b: b // a)
  |    def __mod__(self, other):
  |        return self._with(other, _mod, lambda a, b: a % b)
  |    def __rmod__(self, other):
  |        return self._with(other, lambda a, b: _mod(b, a), lambda a, b: b % a)
  |    def __divmod__(self, other):
  |        return (self // other, self % other)
  |    def __pow__(self, other):
  |        if isinstance(other, Fraction) and other.denominator == 1:
  |            other = other.numerator
  |        if isinstance(other, int):
  |            if other >= 0:
  |                return Fraction(self.numerator ** other, self.denominator ** other)
  |            if self.numerator == 0:
  |                raise ZeroDivisionError('Fraction(%s, 0)' % self.denominator ** -other)
  |            return Fraction(self.denominator ** -other, self.numerator ** -other)
  |        return float(self) ** float(other)
  |    def __rpow__(self, other):
  |        if self.denominator == 1 and self.numerator >= 0:
  |            return other ** self.numerator
  |        return other ** float(self)
  |    def __pos__(self):
  |        return self
  |    def __neg__(self):
  |        return Fraction(-self.numerator, self.denominator)
  |    def __abs__(self):
  |        return Fraction(abs(self.numerator), self.denominator)
  |    def __int__(self):
  |        return self.__trunc__()
  |    def __float__(self):
  |        return self.numerator / self.denominator
  |    def __trunc__(self):
  |        if self.numerator < 0:
  |            return -(-self.numerator // self.denominator)
  |        return self.numerator // self.denominator
  |    def __floor__(self):
  |        return self.numerator // self.denominator
  |    def __ceil__(self):
  |        return -(-self.numerator // self.denominator)
  |    def __round__(self, ndigits=None):
  |        if ndigits is None:
  |            d = self.denominator
  |            floor, remainder = divmod(self.numerator, d)
  |            if remainder * 2 < d:
  |                return floor
  |            if remainder * 2 > d:
  |                return floor + 1
  |            return floor + (floor & 1)
  |        shift = 10 ** abs(ndigits)
  |        if ndigits > 0:
  |            return Fraction(round(self * shift), shift)
  |        return Fraction(round(self / shift) * shift)
  |    def __hash__(self):
  |        if self.denominator == 1:
  |            return hash(self.numerator)
  |        return hash((self.numerator, self.denominator))
  |    def __eq__(self, other):
  |        if isinstance(other, int):
  |            return self.numerator == other and self.denominator == 1
  |        if isinstance(other, Fraction):
  |            return self.numerator == other.numerator and self.denominator == other.denominator
  |        if isinstance(other, float):
  |            if other != other or other in (float('inf'), -float('inf')):
  |                return 0.0 == other
  |            return self == Fraction(other)
  |        return NotImplemented
  |    def _order(self, other, test):
  |        if isinstance(other, float):
  |            if other != other or other in (float('inf'), -float('inf')):
  |                return test(0.0, other)
  |            other = Fraction(other)
  |        elif isinstance(other, int):
  |            other = Fraction(other)
  |        elif not isinstance(other, Fraction):
  |            return NotImplemented
  |        return test(self.numerator * other.denominator, self.denominator * other.numerator)
  |    def __lt__(self, other):
  |        return self._order(other, lambda a, b: a < b)
  |    def __gt__(self, other):
  |        return self._order(other, lambda a, b: a > b)
  |    def __le__(self, other):
  |        return self._order(other, lambda a, b: a <= b)
  |    def __ge__(self, other):
  |        return self._order(other, lambda a, b: a >= b)
  |    def __bool__(self):
  |        return self.numerator != 0
  |
  |def _read(text):
  |    m = _form.fullmatch(text)
  |    if m is None:
  |        raise ValueError('Invalid literal for Fraction: %r' % text)
  |    n = int(m.group('num') or '0')
  |    denom = m.group('denom')
  |    if denom:
  |        d = int(denom)
  |        if m.group('decimal') is not None or m.group('exp'):
  |            raise ValueError('Invalid literal for Fraction: %r' % text)
  |    else:
  |        d = 1
  |        decimal = m.group('decimal')
  |        if decimal:
  |            decimal = decimal.replace('_', '')
  |            scale = 10 ** len(decimal)
  |            n = n * scale + int(decimal)
  |            d *= scale
  |        exp = m.group('exp')
  |        if exp:
  |            exp = int(exp)
  |            if exp >= 0:
  |                n *= 10 ** exp
  |            else:
  |                d *= 10 ** -exp
  |    return (-n if m.group('sign') == '-' else n), d
  |
  |def _add(a, b):
  |    return Fraction(a.numerator * b.denominator + b.numerator * a.denominator,
  |                    a.denominator * b.denominator)
  |
  |def _sub(a, b):
  |    return Fraction(a.numerator * b.denominator - b.numerator * a.denominator,
  |                    a.denominator * b.denominator)
  |
  |def _mul(a, b):
  |    return Fraction(a.numerator * b.numerator, a.denominator * b.denominator)
  |
  |def _div(a, b):
  |    return Fraction(a.numerator * b.denominator, a.denominator * b.numerator)
  |
  |def _floor(a, b):
  |    return (a.numerator * b.denominator) // (a.denominator * b.numerator)
  |
  |def _mod(a, b):
  |    da, db = a.denominator, b.denominator
  |    return Fraction((a.numerator * db) % (b.numerator * da), da * db)"#

/-- Averages and spreads. -/
def averages : String := r#"
  |import math
  |from collections import Counter as _Counter
  |from fractions import Fraction as _Fraction
  |
  |class StatisticsError(ValueError):
  |    pass
  |
  |def _total(data):
  |    total = _Fraction(0)
  |    kind = int
  |    count = 0
  |    for x in data:
  |        count += 1
  |        if isinstance(x, float):
  |            kind = float
  |        elif isinstance(x, _Fraction) and kind is int:
  |            kind = _Fraction
  |        total += _Fraction(x)
  |    return total, kind, count
  |
  |def _shown(value, kind):
  |    if kind is _Fraction:
  |        return value
  |    if kind is int and value.denominator == 1:
  |        return value.numerator
  |    return value.numerator / value.denominator
  |
  |def mean(data):
  |    total, real, n = _total(data)
  |    if n < 1:
  |        raise StatisticsError('mean requires at least one data point')
  |    return _shown(total / n, real)
  |
  |def fmean(data, weights=None):
  |    data = list(data)
  |    if not data:
  |        raise StatisticsError('fmean requires at least one data point')
  |    if weights is None:
  |        return math.fsum(data) / len(data)
  |    weights = list(weights)
  |    return math.fsum(x * w for x, w in zip(data, weights)) / math.fsum(weights)
  |
  |def geometric_mean(data):
  |    data = list(data)
  |    if not data:
  |        raise StatisticsError('geometric mean requires a non-empty dataset')
  |    return math.exp(fmean(map(math.log, data)))
  |
  |def harmonic_mean(data, weights=None):
  |    data = list(data)
  |    if not data:
  |        raise StatisticsError('harmonic_mean requires at least one data point')
  |    if 0 in data:
  |        return 0
  |    weights = [1] * len(data) if weights is None else list(weights)
  |    total, kind, n = _total(w / x if w else 0 for w, x in zip(weights, data))
  |    return _shown(_total(weights)[0] / total, kind)
  |
  |def median(data):
  |    data = sorted(data)
  |    n = len(data)
  |    if n == 0:
  |        raise StatisticsError('no median for empty data')
  |    if n % 2 == 1:
  |        return data[n // 2]
  |    i = n // 2
  |    return (data[i - 1] + data[i]) / 2
  |
  |def median_low(data):
  |    data = sorted(data)
  |    if not data:
  |        raise StatisticsError('no median for empty data')
  |    return data[(len(data) - 1) // 2]
  |
  |def median_high(data):
  |    data = sorted(data)
  |    if not data:
  |        raise StatisticsError('no median for empty data')
  |    return data[len(data) // 2]
  |
  |def mode(data):
  |    pairs = _Counter(iter(data)).most_common(1)
  |    if not pairs:
  |        raise StatisticsError('no mode for empty data')
  |    return pairs[0][0]
  |
  |def multimode(data):
  |    counts = _Counter(iter(data))
  |    if not counts:
  |        return []
  |    most = max(counts.values())
  |    return [value for value, count in counts.items() if count == most]
  |
  |def quantiles(data, *, n=4, method='exclusive'):
  |    if n < 1:
  |        raise StatisticsError('n must be at least 1')
  |    data = sorted(data)
  |    ld = len(data)
  |    if ld < 2:
  |        raise StatisticsError('must have at least two data points')
  |    found = []
  |    if method == 'inclusive':
  |        m = ld - 1
  |        for i in range(1, n):
  |            j, delta = divmod(i * m, n)
  |            found.append((data[j] * (n - delta) + data[j + 1] * delta) / n)
  |        return found
  |    if method == 'exclusive':
  |        m = ld + 1
  |        for i in range(1, n):
  |            j = i * m // n
  |            j = 1 if j < 1 else ld - 1 if j > ld - 1 else j
  |            delta = i * m - j * n
  |            found.append((data[j - 1] * (n - delta) + data[j] * delta) / n)
  |        return found
  |    raise ValueError('Unknown method: %r' % (method,))
  |
  |def _squares(data, center):
  |    data = list(data)
  |    total, real, n = _total(data)
  |    if n == 0:
  |        return _Fraction(0), real, n
  |    middle = total / n if center is None else _Fraction(center)
  |    return sum((_Fraction(x) - middle) ** 2 for x in data), real, n
  |
  |def variance(data, xbar=None):
  |    ss, real, n = _squares(data, xbar)
  |    if n < 2:
  |        raise StatisticsError('variance requires at least two data points')
  |    return _shown(ss / (n - 1), real)
  |
  |def pvariance(data, mu=None):
  |    ss, real, n = _squares(data, mu)
  |    if n < 1:
  |        raise StatisticsError('pvariance requires at least one data point')
  |    return _shown(ss / n, real)
  |
  |def _root(square):
  |    n, d = square.numerator, square.denominator
  |    if n == 0:
  |        return 0.0
  |    shift = max(0, 220 - n.bit_length() + d.bit_length())
  |    shift += shift & 1
  |    root = math.isqrt((n << shift) // d)
  |    return root / (1 << shift // 2)
  |
  |def stdev(data, xbar=None):
  |    ss, real, n = _squares(data, xbar)
  |    if n < 2:
  |        raise StatisticsError('stdev requires at least two data points')
  |    return _root(ss / (n - 1))
  |
  |def pstdev(data, mu=None):
  |    ss, real, n = _squares(data, mu)
  |    if n < 1:
  |        raise StatisticsError('pstdev requires at least one data point')
  |    return _root(ss / n)"#

/-- Numbers by chance. -/
def chance : String := r#"
  |from math import log as _log, exp as _exp, sqrt as _sqrt, cos as _cos, sin as _sin, pi as _pi
  |import hashlib as _hashlib
  |
  |class Random:
  |    def __init__(self, x=None):
  |        self.gauss_next = None
  |        self.seed(x)
  |    def seed(self, a=None, version=2):
  |        if a is None:
  |            a = 20240101
  |        if isinstance(a, (str, bytes, bytearray)):
  |            if isinstance(a, str):
  |                a = a.encode()
  |            a = int.from_bytes(bytes(a) + _hashlib.sha512(bytes(a)).digest(), 'big')
  |        elif isinstance(a, float):
  |            a = hash(a)
  |        elif not isinstance(a, int):
  |            raise TypeError('The only supported seed types are: None,\n'
  |                            'int, float, str, bytes, and bytearray.')
  |        self.gauss_next = None
  |        self._start(abs(int(a)))
  |    def _start(self, a):
  |        keys = []
  |        while True:
  |            keys.append(a & 0xffffffff)
  |            a >>= 32
  |            if not a:
  |                break
  |        mt = [19650218]
  |        value = 19650218
  |        for i in range(1, 624):
  |            value = (1812433253 * (value ^ value >> 30) + i) & 0xffffffff
  |            mt.append(value)
  |        i, j = 1, 0
  |        size = len(keys)
  |        before = mt[0]
  |        for k in range(max(624, size)):
  |            before = ((mt[i] ^ (before ^ before >> 30) * 1664525) + keys[j] + j) & 0xffffffff
  |            mt[i] = before
  |            i += 1
  |            j += 1
  |            if i >= 624:
  |                mt[0] = before
  |                i = 1
  |            if j >= size:
  |                j = 0
  |        for k in range(623):
  |            before = ((mt[i] ^ (before ^ before >> 30) * 1566083941) - i) & 0xffffffff
  |            mt[i] = before
  |            i += 1
  |            if i >= 624:
  |                mt[0] = before
  |                i = 1
  |        mt[0] = 0x80000000
  |        self._mt = mt
  |        self._place = 624
  |    def _word(self):
  |        if self._place >= 624:
  |            mt = self._mt
  |            new = []
  |            for i in range(227):
  |                y = mt[i] & 0x80000000 | mt[i + 1] & 0x7fffffff
  |                new.append(mt[i + 397] ^ y >> 1 ^ (0x9908b0df if y & 1 else 0))
  |            for i in range(227, 623):
  |                y = mt[i] & 0x80000000 | mt[i + 1] & 0x7fffffff
  |                new.append(new[i - 227] ^ y >> 1 ^ (0x9908b0df if y & 1 else 0))
  |            y = mt[623] & 0x80000000 | new[0] & 0x7fffffff
  |            new.append(new[396] ^ y >> 1 ^ (0x9908b0df if y & 1 else 0))
  |            self._mt = new
  |            self._place = 0
  |        y = self._mt[self._place]
  |        self._place += 1
  |        y ^= y >> 11
  |        y ^= y << 7 & 0x9d2c5680
  |        y ^= y << 15 & 0xefc60000
  |        return y ^ y >> 18
  |    def getstate(self):
  |        return (3, tuple(self._mt) + (self._place,), self.gauss_next)
  |    def setstate(self, state):
  |        self._mt = list(state[1][:-1])
  |        self._place = state[1][-1]
  |        self.gauss_next = state[2]
  |    def random(self):
  |        a = self._word() >> 5
  |        b = self._word() >> 6
  |        return (a * 67108864.0 + b) * (1.0 / 9007199254740992.0)
  |    def getrandbits(self, k):
  |        if k < 0:
  |            raise ValueError('number of bits must be non-negative')
  |        found = 0
  |        shift = 0
  |        while k > 0:
  |            word = self._word()
  |            if k < 32:
  |                word >>= 32 - k
  |            found |= word << shift
  |            shift += 32
  |            k -= 32
  |        return found
  |    def randbytes(self, n):
  |        return self.getrandbits(n * 8).to_bytes(n, 'little')
  |    def _randbelow(self, n):
  |        k = n.bit_length()
  |        r = self.getrandbits(k)
  |        while r >= n:
  |            r = self.getrandbits(k)
  |        return r
  |    def randrange(self, start, stop=None, step=1):
  |        if stop is None:
  |            if start > 0:
  |                return self._randbelow(start)
  |            raise ValueError('empty range for randrange()')
  |        width = stop - start
  |        if step == 1:
  |            if width > 0:
  |                return start + self._randbelow(width)
  |            raise ValueError('empty range in randrange(%d, %d)' % (start, stop))
  |        if step > 0:
  |            n = (width + step - 1) // step
  |        elif step < 0:
  |            n = (width + step + 1) // step
  |        else:
  |            raise ValueError('zero step for randrange()')
  |        if n <= 0:
  |            raise ValueError('empty range in randrange(%d, %d, %d)' % (start, stop, step))
  |        return start + step * self._randbelow(n)
  |    def randint(self, a, b):
  |        return self.randrange(a, b + 1)
  |    def choice(self, seq):
  |        if not len(seq):
  |            raise IndexError('Cannot choose from an empty sequence')
  |        return seq[self._randbelow(len(seq))]
  |    def choices(self, population, weights=None, *, cum_weights=None, k=1):
  |        n = len(population)
  |        if cum_weights is None:
  |            if weights is None:
  |                return [population[int(self.random() * n)] for i in range(k)]
  |            cum_weights = []
  |            total = 0
  |            for w in weights:
  |                total += w
  |                cum_weights.append(total)
  |        total = cum_weights[-1] + 0.0
  |        from bisect import bisect
  |        return [population[bisect(cum_weights, self.random() * total, 0, n - 1)]
  |                for i in range(k)]
  |    def shuffle(self, x):
  |        for i in reversed(range(1, len(x))):
  |            j = self._randbelow(i + 1)
  |            x[i], x[j] = x[j], x[i]
  |    def sample(self, population, k, *, counts=None):
  |        if counts is not None:
  |            population = [v for v, c in zip(population, counts) for i in range(c)]
  |        n = len(population)
  |        if not 0 <= k <= n:
  |            raise ValueError('Sample larger than population or is negative')
  |        result = [None] * k
  |        setsize = 21
  |        if k > 5:
  |            setsize += 4 ** _ceil(_log(k * 3, 4))
  |        if n <= setsize:
  |            pool = list(population)
  |            for i in range(k):
  |                j = self._randbelow(n - i)
  |                result[i] = pool[j]
  |                pool[j] = pool[n - i - 1]
  |        else:
  |            selected = set()
  |            for i in range(k):
  |                j = self._randbelow(n)
  |                while j in selected:
  |                    j = self._randbelow(n)
  |                selected.add(j)
  |                result[i] = population[j]
  |        return result
  |    def uniform(self, a, b):
  |        return a + (b - a) * self.random()
  |    def triangular(self, low=0.0, high=1.0, mode=None):
  |        u = self.random()
  |        c = 0.5 if mode is None else (mode - low) / (high - low)
  |        if u > c:
  |            u = 1.0 - u
  |            c = 1.0 - c
  |            low, high = high, low
  |        return low + (high - low) * _sqrt(u * c)
  |    def normalvariate(self, mu=0.0, sigma=1.0):
  |        while True:
  |            u1 = self.random()
  |            u2 = 1.0 - self.random()
  |            z = 4 * _exp(-0.5) / _sqrt(2.0) * (u1 - 0.5) / u2
  |            if z * z / 4.0 <= -_log(u2):
  |                return mu + z * sigma
  |    def gauss(self, mu=0.0, sigma=1.0):
  |        z = self.gauss_next
  |        self.gauss_next = None
  |        if z is None:
  |            x2pi = self.random() * 2.0 * _pi
  |            g2rad = _sqrt(-2.0 * _log(1.0 - self.random()))
  |            z = _cos(x2pi) * g2rad
  |            self.gauss_next = _sin(x2pi) * g2rad
  |        return mu + z * sigma
  |    def lognormvariate(self, mu=0.0, sigma=1.0):
  |        return _exp(self.normalvariate(mu, sigma))
  |    def expovariate(self, lambd=1.0):
  |        return -_log(1.0 - self.random()) / lambd
  |    def paretovariate(self, alpha):
  |        return (1.0 - self.random()) ** (-1.0 / alpha)
  |    def weibullvariate(self, alpha, beta):
  |        return alpha * (-_log(1.0 - self.random())) ** (1.0 / beta)
  |
  |def _ceil(x):
  |    n = int(x)
  |    return n + 1 if n < x else n
  |
  |class SystemRandom(Random):
  |    pass
  |
  |_found = []
  |
  |def _shared():
  |    if not _found:
  |        _found.append(Random())
  |    return _found[0]
  |
  |def _routine(name):
  |    def routine(*args, **kwargs):
  |        return getattr(_shared(), name)(*args, **kwargs)
  |    return routine
  |
  |for _name in ('seed', 'getstate', 'setstate', 'random', 'getrandbits', 'randbytes', 'randrange',
  |              'randint', 'choice', 'choices', 'shuffle', 'sample', 'uniform', 'triangular',
  |              'normalvariate', 'gauss', 'lognormvariate', 'expovariate', 'paretovariate',
  |              'weibullvariate'):
  |    globals()[_name] = _routine(_name)"#

def secrets : String := r#"
  |import os
  |from random import SystemRandom
  |
  |def randbelow(n):
  |    return int.from_bytes(os.urandom(16), 'big') % n
  |
  |def choice(seq):
  |    return seq[randbelow(len(seq))]
  |
  |def randbits(k):
  |    return int.from_bytes(os.urandom((k + 7) // 8), 'big') >> -k % 8
  |
  |def token_bytes(nbytes=None):
  |    return os.urandom(32 if nbytes is None else nbytes)
  |
  |def token_hex(nbytes=None):
  |    return token_bytes(nbytes).hex()
  |
  |def token_urlsafe(nbytes=None):
  |    import base64
  |    return base64.urlsafe_b64encode(token_bytes(nbytes)).rstrip(b'=').decode('ascii')
  |
  |def compare_digest(a, b):
  |    return a == b"#

end BuiltinWrappers.Script.Indented.Library
